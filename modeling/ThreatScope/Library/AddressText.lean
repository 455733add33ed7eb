import ThreatScope.Library.Partitions
import ThreatScope.Library.Traversals

/-!
# The spellings of addresses

`ipaddress.ip_address` of Python on lists of letters: four decimal octets, or eight
hexadecimal hextets of which one run of zeros may be left out, with a scope behind a percent
sign. `compressed` writes an address with its longest run of zeros left out, and an address
is read again from what is written (`ipAddress_compressed`).
-/

set_option autoImplicit false

namespace ThreatScope.Library

/-- An address as its octets, or as its hextets and its scope. -/
inductive SpelledAddress where
  | v4 (octets : List Nat)
  | v6 (hextets : List Nat) (scopeId : Option (List Char))
deriving DecidableEq

/-! ## Reading -/

def parseOctet (text : List Char) : Option Nat :=
  if text = [] then none
  else if text.all Char.isDigit = false then none
  else if 3 < text.length then none
  else if text ≠ ['0'] ∧ text.head? = some '0' then none
  else if 255 < Nat.ofDigitChars 10 text 0 then none
  else some (Nat.ofDigitChars 10 text 0)

/-- `IPv4Address(text)`. -/
def ipv4Address (text : List Char) : Option (List Nat) :=
  if (text.splitOn '.').length = 4 then (text.splitOn '.').mapM parseOctet else none

/-- The value of a hexadecimal digit. -/
def hexValue? (c : Char) : Option Nat :=
  if c.isDigit then some (c.toNat - 48)
  else if 97 ≤ c.toNat ∧ c.toNat ≤ 102 then some (c.toNat - 87)
  else if 65 ≤ c.toNat ∧ c.toNat ≤ 70 then some (c.toNat - 55)
  else none

/-- The number that digits of base 16 write. -/
def ofHexDigits (digits : List Nat) : Nat := digits.foldl (fun value digit => 16 * value + digit) 0

def parseHextet (text : List Char) : Option Nat :=
  match text.mapM hexValue? with
  | none => none
  | some digits => if text = [] ∨ 4 < text.length then none else some (ofHexDigits digits)

/-- A dotted suffix as two hextets. -/
def expandSuffix (parts : List (List Char)) : Option (List (List Char)) :=
  match parts.getLast? with
  | none => some parts
  | some last =>
    if '.' ∈ last then
      match ipv4Address last with
      | some [a, b, c, d] =>
        some (parts.dropLast ++ [Nat.toDigits 16 (256 * a + b), Nat.toDigits 16 (256 * c + d)])
      | _ => none
    else some parts

/-- The empty parts between two others. -/
def skipIndices (parts : List (List Char)) : List Nat :=
  (List.range parts.length).filter fun i =>
    decide (0 < i) && decide (i + 1 < parts.length) && parts[i]? == some []

/-- The parts on one side of the gap, whose outer end may be empty only next to it. -/
def besideGap (side : List (List Char)) (outer : Option (List Char)) :
    Option (List (List Char)) :=
  if outer = some [] then if side.length = 1 then some [] else none
  else some side

/-- The hextets that the parts write. -/
def hextetsOf (parts : List (List Char)) : Option (List Nat) :=
  match skipIndices parts with
  | [] => if parts.length = 8 then parts.mapM parseHextet else none
  | [skip] =>
    match besideGap (parts.take skip) parts.head?,
        besideGap (parts.drop (skip + 1)) parts.getLast? with
    | some high, some low =>
      if high.length + low.length < 8 then
        match high.mapM parseHextet, low.mapM parseHextet with
        | some front, some back =>
          some (front ++ List.replicate (8 - (high.length + low.length)) 0 ++ back)
        | _, _ => none
      else none
    | _, _ => none
  | _ => none

/-- `IPv6Address._ip_int_from_string(text)`. -/
def ipv6Hextets (text : List Char) : Option (List Nat) :=
  if (text.splitOn ':').length < 3 then none
  else match expandSuffix (text.splitOn ':') with
    | none => none
    | some parts => if 9 < parts.length then none else hextetsOf parts

/-- `IPv6Address(text)`. -/
def ipv6Address (text : List Char) : Option (List Nat × Option (List Char)) :=
  if '/' ∈ text then none
  else match partition '%' text with
    | (front, none) => (ipv6Hextets front).map fun hextets => (hextets, none)
    | (front, some scopeId) =>
      if scopeId = [] ∨ '%' ∈ scopeId then none
      else (ipv6Hextets front).map fun hextets => (hextets, some scopeId)

/-- `ipaddress.ip_address(text)`. -/
def ipAddress (text : List Char) : Option SpelledAddress :=
  match ipv4Address text with
  | some octets => some (.v4 octets)
  | none => (ipv6Address text).map fun pair => .v6 pair.1 pair.2

/-! ## Writing -/

/-- A run of zeros. -/
structure ZeroRun where
  start : Nat
  length : Nat

/-- The loop of `_compress_hextets`: the longest run so far and the run that ends here. -/
def longestZeros : List (List Char) → Nat → ZeroRun → ZeroRun → ZeroRun
  | [], _, best, _ => best
  | hextet :: rest, index, best, current =>
    if hextet = ['0'] then
      let longer : ZeroRun :=
        ⟨if current.length = 0 then index else current.start, current.length + 1⟩
      longestZeros rest (index + 1) (if best.length < longer.length then longer else best) longer
    else longestZeros rest (index + 1) best ⟨0, 0⟩

def compressHextets (hextets : List (List Char)) : List (List Char) :=
  let best := longestZeros hextets 0 ⟨0, 0⟩ ⟨0, 0⟩
  if 1 < best.length then
    (if best.start = 0 then [[]] else []) ++ hextets.take best.start ++ [[]] ++
      hextets.drop (best.start + best.length) ++
      (if best.start + best.length = hextets.length then [[]] else [])
  else hextets

/-- `address.compressed`. -/
def SpelledAddress.compressed : SpelledAddress → List Char
  | .v4 octets => ['.'].intercalate (octets.map (Nat.toDigits 10))
  | .v6 hextets scopeId =>
    [':'].intercalate (compressHextets (hextets.map (Nat.toDigits 16))) ++
      (scopeId.map fun letters => '%' :: letters).getD []

/-- An address that a text can spell. -/
inductive SpelledAddress.WellFormed : SpelledAddress → Prop where
  | v4 {octets : List Nat} (four : octets.length = 4) (small : ∀ octet ∈ octets, octet ≤ 255) :
      WellFormed (.v4 octets)
  | v6 {hextets : List Nat} {scopeId : Option (List Char)} (eight : hextets.length = 8)
      (small : ∀ hextet ∈ hextets, hextet < 16 ^ 4)
      (named : ∀ letters, scopeId = some letters →
        letters ≠ [] ∧ '%' ∉ letters ∧ '/' ∉ letters) :
      WellFormed (.v6 hextets scopeId)

/-! ## Numbers -/

theorem hexValue?_digitChar {digit : Nat} (small : digit < 16) :
    hexValue? digit.digitChar = some digit := by
  revert digit
  decide

theorem ofHexDigits_concat (digits : List Nat) (last : Nat) :
    ofHexDigits (digits ++ [last]) = 16 * ofHexDigits digits + last := by
  unfold ofHexDigits
  rw [List.foldl_append]
  rfl

theorem hexValue?_lt {c : Char} {digit : Nat} (read : hexValue? c = some digit) : digit < 16 := by
  unfold hexValue? at read
  split at read
  · rename_i decimal
    cases read
    rw [Char.isDigit, Bool.and_eq_true, decide_eq_true_eq, decide_eq_true_eq] at decimal
    have bound : c.toNat ≤ 57 := UInt32.le_iff_toNat_le.mp decimal.2
    omega
  · split at read
    · cases read
      omega
    · split at read
      · cases read
        omega
      · cases read

theorem ofHexDigits_lt {digits : List Nat} (small : ∀ digit ∈ digits, digit < 16) :
    ofHexDigits digits < 16 ^ digits.length := by
  induction digits using List.reverseRecOn with
  | nil => decide
  | append_singleton front last ih =>
    have below := ih fun digit inside => small digit (List.mem_append_left _ inside)
    have end_ := small last (List.mem_append_right _ List.mem_cons_self)
    rw [ofHexDigits_concat, List.length_append, List.length_singleton, Nat.pow_succ]
    omega

theorem mapM_hexValue?_toDigits (number : Nat) :
    ∃ digits, (Nat.toDigits 16 number).mapM hexValue? = some digits ∧
      ofHexDigits digits = number := by
  induction number using Nat.base_induction 16 (by decide) with
  | single digit small =>
    refine ⟨[digit], ?_, Nat.zero_add digit⟩
    rw [Nat.toDigits_of_lt_base small, mapM_eq_some_iff, List.map_cons,
      hexValue?_digitChar small]
    rfl
  | digit front last small positive ih =>
    obtain ⟨digits, read, writes⟩ := ih
    refine ⟨digits ++ [last], ?_, by rw [ofHexDigits_concat, writes]⟩
    rw [← Nat.toDigits_append_toDigits (by decide) positive small, mapM_eq_some_iff,
      List.map_append, mapM_eq_some_iff.mp read, Nat.toDigits_of_lt_base small, List.map_cons,
      hexValue?_digitChar small, List.map_append]
    rfl

theorem parseHextet_toDigits {hextet : Nat} (small : hextet < 16 ^ 4) :
    parseHextet (Nat.toDigits 16 hextet) = some hextet := by
  obtain ⟨digits, read, writes⟩ := mapM_hexValue?_toDigits hextet
  have short := (Nat.length_toDigits_le_iff (by decide) (by decide)).mpr small
  unfold parseHextet
  rw [read]
  simp only
  rw [if_neg (not_or.mpr ⟨Nat.toDigits_ne_nil, by omega⟩), writes]

theorem parseHextet_lt {text : List Char} {hextet : Nat} (read : parseHextet text = some hextet) :
    hextet < 16 ^ 4 := by
  unfold parseHextet at read
  split at read
  · cases read
  · rename_i digits found
    split at read
    · cases read
    · rename_i short
      cases read
      have below := ofHexDigits_lt fun digit inside => by
        obtain ⟨c, -, value⟩ := mem_of_mapM_eq_some found inside
        exact hexValue?_lt value
      refine below.trans_le (Nat.pow_le_pow_right (by decide) ?_)
      rw [length_of_mapM_eq_some found]
      omega

theorem not_mem_toDigits_hex {c : Char} (sign : hexValue? c = none) (number : Nat) :
    c ∉ Nat.toDigits 16 number := by
  intro inside
  obtain ⟨digits, read, -⟩ := mapM_hexValue?_toDigits number
  obtain ⟨digit, -, value⟩ := exists_of_mapM_eq_some read inside
  cases sign.symm.trans value

theorem parseOctet_toDigits {octet : Nat} (small : octet ≤ 255) :
    parseOctet (Nat.toDigits 10 octet) = some octet := by
  have all : ∀ number < 256, parseOctet (Nat.toDigits 10 number) = some number := by
    decide +kernel
  exact all octet (by omega)

theorem of_parseOctet {text : List Char} {octet : Nat} (read : parseOctet text = some octet) :
    octet ≤ 255 ∧ ∀ c ∈ text, c.isDigit = true := by
  unfold parseOctet at read
  split at read
  · cases read
  · split at read
    · cases read
    · rename_i digits
      rw [Bool.not_eq_false, List.all_eq_true] at digits
      split at read
      · cases read
      · split at read
        · cases read
        · split at read
          · cases read
          · cases read
            exact ⟨by omega, digits⟩

/-! ## Joined parts -/

theorem mem_intercalate {separator c : Char} {parts : List (List Char)}
    (inside : c ∈ [separator].intercalate parts) : c = separator ∨ ∃ part ∈ parts, c ∈ part := by
  induction parts with
  | nil => exact absurd inside List.not_mem_nil
  | cons part rest ih =>
    by_cases last : rest = []
    · rw [last, List.intercalate_singleton] at inside
      exact .inr ⟨part, List.mem_cons_self, inside⟩
    · rw [List.intercalate_cons_of_ne_nil last, List.mem_append, List.mem_append,
        List.mem_singleton] at inside
      rcases inside with (here | same) | later
      · exact .inr ⟨part, List.mem_cons_self, here⟩
      · exact .inl same
      · obtain same | ⟨other, listed, there⟩ := ih later
        · exact .inl same
        · exact .inr ⟨other, List.mem_cons_of_mem _ listed, there⟩

theorem of_ipv4Address {text : List Char} {octets : List Nat}
    (read : ipv4Address text = some octets) :
    octets.length = 4 ∧ (∀ octet ∈ octets, octet ≤ 255) ∧
      ∀ c ∈ text, c = '.' ∨ c.isDigit = true := by
  unfold ipv4Address at read
  split at read
  · rename_i four
    refine ⟨(length_of_mapM_eq_some read).trans four, ?_, ?_⟩
    · intro octet inside
      obtain ⟨part, -, value⟩ := mem_of_mapM_eq_some read inside
      exact (of_parseOctet value).1
    · intro c inside
      rw [← @List.intercalate_splitOn _ text _ _ '.'] at inside
      obtain same | ⟨part, listed, there⟩ := mem_intercalate inside
      · exact .inl same
      · obtain ⟨octet, -, value⟩ := exists_of_mapM_eq_some read listed
        exact .inr ((of_parseOctet value).2 c there)
  · cases read

theorem ipv4Address_intercalate {octets : List Nat} (four : octets.length = 4)
    (small : ∀ octet ∈ octets, octet ≤ 255) :
    ipv4Address (['.'].intercalate (octets.map (Nat.toDigits 10))) = some octets := by
  have some_ : octets.map (Nat.toDigits 10) ≠ [] := by
    intro empty
    rw [List.map_eq_nil_iff.mp empty] at four
    cases four
  have split : (['.'].intercalate (octets.map (Nat.toDigits 10))).splitOn '.' =
      octets.map (Nat.toDigits 10) := by
    refine List.splitOn_intercalate '.' ?_ some_
    intro part listed inside
    obtain ⟨octet, -, rfl⟩ := List.mem_map.mp listed
    exact absurd (Nat.isDigit_of_mem_toDigits (by decide) (by decide) inside) (by decide)
  unfold ipv4Address
  rw [split, if_pos ((List.length_map _).trans four), mapM_eq_some_iff, List.map_map]
  refine List.map_congr_left ?_
  intro octet listed
  exact parseOctet_toDigits (small octet listed)

/-! ## The run that is left out -/

/-- The letters of a run are zeros. -/
structure ZeroRun.Within (run : ZeroRun) (hextets : List (List Char)) : Prop where
  inside : run.start + run.length ≤ hextets.length
  zeros : ∀ i, run.start ≤ i → i < run.start + run.length → hextets[i]? = some ['0']

theorem within_single {hextets : List (List Char)} {index : Nat}
    (zero : hextets[index]? = some ['0']) : ZeroRun.Within ⟨index, 0 + 1⟩ hextets := by
  obtain ⟨small, -⟩ := List.getElem?_eq_some_iff.mp zero
  refine ⟨small, ?_⟩
  intro i low high
  have same : i = index := Nat.le_antisymm (Nat.le_of_lt_succ high) low
  rw [same]
  exact zero

theorem ZeroRun.Within.extend {hextets : List (List Char)} {run : ZeroRun}
    (within : run.Within hextets) (zero : hextets[run.start + run.length]? = some ['0']) :
    ZeroRun.Within ⟨run.start, run.length + 1⟩ hextets := by
  obtain ⟨small, -⟩ := List.getElem?_eq_some_iff.mp zero
  refine ⟨small, ?_⟩
  intro i low high
  rcases Nat.lt_succ_iff_lt_or_eq.mp high with before | same
  · exact within.zeros i low before
  · rw [same]
    exact zero

/-- **The loop finds a run.** -/
theorem within_longestZeros {hextets done rest : List (List Char)} {best current : ZeroRun}
    (whole : hextets = done ++ rest) (found : best.Within hextets)
    (here : current.length ≠ 0 →
      current.start + current.length = done.length ∧ current.Within hextets) :
    (longestZeros rest done.length best current).Within hextets := by
  induction rest generalizing done best current with
  | nil => exact found
  | cons hextet rest ih =>
    have onwards : hextets = (done ++ [hextet]) ++ rest := by
      rw [whole, List.append_assoc, List.singleton_append]
    have count : (done ++ [hextet]).length = done.length + 1 := List.length_append
    have size : done.length + 1 ≤ hextets.length := by
      rw [onwards, List.length_append, count]
      omega
    rw [longestZeros]
    split
    · rename_i zero
      have place : hextets[done.length]? = some ['0'] := by
        rw [whole, List.getElem?_append_right (Nat.le_refl _), Nat.sub_self, zero]
        rfl
      have longer : ZeroRun.Within
          ⟨if current.length = 0 then done.length else current.start, current.length + 1⟩
          hextets := by
        by_cases empty : current.length = 0
        · rw [if_pos empty, empty]
          exact within_single place
        · obtain ⟨ends, within⟩ := here empty
          rw [if_neg empty]
          exact within.extend (ends ▸ place)
      rw [← count]
      refine ih onwards ?_ fun _ => ⟨?_, longer⟩
      · by_cases gains : best.length < current.length + 1
        · exact (if_pos gains).symm ▸ longer
        · exact (if_neg gains).symm ▸ found
      · rw [count]
        by_cases empty : current.length = 0
        · simp only [empty, if_pos]
        · obtain ⟨ends, -⟩ := here empty
          simp only [empty, if_false]
          omega
    · rw [← count]
      exact ih onwards found fun other => absurd rfl other

theorem ZeroRun.Within.split {run : ZeroRun} {hextets : List (List Char)}
    (within : run.Within hextets) :
    hextets = hextets.take run.start ++ List.replicate run.length ['0'] ++
      hextets.drop (run.start + run.length) := by
  have middle : (hextets.drop run.start).take run.length = List.replicate run.length ['0'] := by
    refine List.ext_getElem? fun i => ?_
    rw [List.getElem?_take, List.getElem?_drop, List.getElem?_replicate]
    split
    · rename_i small
      exact within.zeros _ (Nat.le_add_right _ _) (by omega)
    · rfl
  rw [← middle, ← List.drop_drop, List.append_assoc, List.take_append_drop,
    List.take_append_drop]

/-! ## The parts around the gap -/

/-- The parts on one side of the gap as they are written. -/
def edge (side : List (List Char)) : List (List Char) := if side = [] then [[]] else side

theorem edge_ne_nil (side : List (List Char)) : edge side ≠ [] := by
  unfold edge
  split
  · exact List.cons_ne_nil _ _
  · assumption

theorem length_edge_le (side : List (List Char)) : (edge side).length ≤ max 1 side.length := by
  unfold edge
  split
  · exact Nat.le_max_left _ _
  · exact Nat.le_max_right _ _

section Gap

variable {front back : List (List Char)}

theorem besideGap_front (filled : ∀ part ∈ front, part ≠ []) :
    besideGap (edge front) (edge front).head? = some front := by
  unfold besideGap edge
  by_cases empty : front = []
  · rw [if_pos empty, empty]
    rfl
  · rw [if_neg empty, if_neg]
    intro first
    exact filled [] (List.mem_of_head? first) rfl

theorem besideGap_back (filled : ∀ part ∈ back, part ≠ []) :
    besideGap (edge back) (edge back).getLast? = some back := by
  unfold besideGap edge
  by_cases empty : back = []
  · rw [if_pos empty, empty]
    rfl
  · rw [if_neg empty, if_neg]
    intro last
    exact filled [] (List.mem_of_getLast? last) rfl

theorem mem_skipIndices {parts : List (List Char)} {i : Nat} :
    i ∈ skipIndices parts ↔ 0 < i ∧ i + 1 < parts.length ∧ parts[i]? = some [] := by
  simp only [skipIndices, List.mem_filter, List.mem_range, Bool.and_eq_true, decide_eq_true_eq,
    beq_iff_eq]
  constructor
  · rintro ⟨-, ⟨low, high⟩, empty⟩
    exact ⟨low, high, empty⟩
  · rintro ⟨low, high, empty⟩
    exact ⟨by omega, ⟨low, high⟩, empty⟩

theorem eq_zero_of_edge {side : List (List Char)} (filled : ∀ part ∈ side, part ≠ []) {i : Nat}
    (empty : (edge side)[i]? = some []) : i = 0 ∧ side = [] := by
  unfold edge at empty
  split at empty
  · rename_i none
    cases i with
    | zero => exact ⟨rfl, none⟩
    | succ i => cases empty
  · exact absurd rfl (filled [] (List.mem_of_getElem? empty))

theorem skipIndices_gap (inFront : ∀ part ∈ front, part ≠ []) (inBack : ∀ part ∈ back, part ≠ []) :
    skipIndices (edge front ++ [] :: edge back) = [(edge front).length] := by
  have unique : (skipIndices (edge front ++ [] :: edge back)).Nodup :=
    List.nodup_range.filter _
  refine List.perm_singleton.mp
    ((List.perm_ext_iff_of_nodup unique (List.nodup_singleton _)).mpr ?_)
  intro i
  have some_ := List.length_pos_iff.mpr (edge_ne_nil front)
  have more := List.length_pos_iff.mpr (edge_ne_nil back)
  rw [mem_skipIndices, List.mem_singleton, List.length_append, List.length_cons]
  constructor
  · rintro ⟨low, high, empty⟩
    rcases Nat.lt_trichotomy i (edge front).length with before | same | behind
    · rw [List.getElem?_append_left before] at empty
      obtain ⟨first, -⟩ := eq_zero_of_edge inFront empty
      omega
    · exact same
    · rw [List.getElem?_append_right (Nat.le_of_lt behind)] at empty
      obtain ⟨k, rfl⟩ := Nat.exists_eq_add_of_lt behind
      have place : (edge front).length + k + 1 - (edge front).length = k + 1 := by omega
      rw [place, List.getElem?_cons_succ] at empty
      obtain ⟨first, none⟩ := eq_zero_of_edge inBack empty
      rw [none] at high
      simp only [edge, if_pos, List.length_singleton] at high
      omega
  · rintro rfl
    refine ⟨some_, by omega, ?_⟩
    rw [List.getElem?_append_right (Nat.le_refl _), Nat.sub_self]
    rfl

/-- **The parts around a gap** are read with zeros between them. -/
theorem hextetsOf_gap {high low : List Nat} (inFront : ∀ part ∈ front, part ≠ [])
    (inBack : ∀ part ∈ back, part ≠ []) (readFront : front.mapM parseHextet = some high)
    (readBack : back.mapM parseHextet = some low) (room : front.length + back.length < 8) :
    hextetsOf (edge front ++ [] :: edge back) =
      some (high ++ List.replicate (8 - (front.length + back.length)) 0 ++ low) := by
  have first : (edge front ++ [] :: edge back).head? = (edge front).head? := by
    rw [List.head?_append_of_ne_nil _ (edge_ne_nil front)]
  have last : (edge front ++ [] :: edge back).getLast? = (edge back).getLast? := by
    rw [List.getLast?_append_of_ne_nil _ (List.cons_ne_nil _ _),
      List.getLast?_cons_of_ne_nil (edge_ne_nil back)]
  have upper : (edge front ++ [] :: edge back).take (edge front).length = edge front :=
    List.take_left
  have lower : (edge front ++ [] :: edge back).drop ((edge front).length + 1) = edge back := by
    rw [← List.drop_drop, List.drop_left]
    rfl
  unfold hextetsOf
  rw [skipIndices_gap inFront inBack]
  simp only
  rw [first, last, upper, lower, besideGap_front inFront, besideGap_back inBack]
  simp only
  rw [if_pos room, readFront, readBack]

theorem hextetsOf_full {parts : List (List Char)} (filled : ∀ part ∈ parts, part ≠ [])
    (eight : parts.length = 8) : hextetsOf parts = parts.mapM parseHextet := by
  have none : skipIndices parts = [] := by
    refine List.eq_nil_iff_forall_not_mem.mpr ?_
    intro i inside
    obtain ⟨-, -, empty⟩ := mem_skipIndices.mp inside
    exact filled [] (List.mem_of_getElem? empty) rfl
  unfold hextetsOf
  rw [none]
  exact if_pos eight

end Gap

/-! ## Reading what was written -/

theorem mapM_parseHextet {hextets : List Nat} (small : ∀ hextet ∈ hextets, hextet < 16 ^ 4) :
    (hextets.map (Nat.toDigits 16)).mapM parseHextet = some hextets := by
  rw [mapM_eq_some_iff, List.map_map]
  refine List.map_congr_left ?_
  intro hextet inside
  exact parseHextet_toDigits (small hextet inside)

theorem compressHextets_cases (hextets : List (List Char)) :
    compressHextets hextets = hextets ∨
      ∃ run : ZeroRun, run.Within hextets ∧ 1 < run.length ∧
        compressHextets hextets = edge (hextets.take run.start) ++
          [] :: edge (hextets.drop (run.start + run.length)) := by
  have within : (longestZeros hextets 0 ⟨0, 0⟩ ⟨0, 0⟩).Within hextets :=
    @within_longestZeros hextets [] hextets ⟨0, 0⟩ ⟨0, 0⟩ rfl
      ⟨Nat.zero_le _, fun i low high => absurd high (Nat.not_lt.mpr low)⟩
      (fun other => absurd rfl other)
  unfold compressHextets
  generalize longestZeros hextets 0 ⟨0, 0⟩ ⟨0, 0⟩ = run at within
  by_cases long : 1 < run.length
  · refine .inr ⟨run, within, long, ?_⟩
    have inside := within.inside
    simp only [if_pos long]
    have upper : (if run.start = 0 then [[]] else []) ++ hextets.take run.start =
        edge (hextets.take run.start) := by
      unfold edge
      by_cases first : run.start = 0
      · rw [first, if_pos rfl, List.take_zero, if_pos rfl]
        rfl
      · rw [if_neg first, List.nil_append, if_neg]
        intro empty
        have none := congrArg List.length empty
        rw [List.length_take, List.length_nil] at none
        omega
    have lower : hextets.drop (run.start + run.length) ++
        (if run.start + run.length = hextets.length then [[]] else []) =
        edge (hextets.drop (run.start + run.length)) := by
      unfold edge
      by_cases last : run.start + run.length = hextets.length
      · rw [if_pos last, last, List.drop_length, if_pos rfl]
        rfl
      · rw [if_neg last, List.append_nil, if_neg]
        intro empty
        rw [List.drop_eq_nil_iff] at empty
        omega
    rw [← upper, ← lower]
    simp only [List.append_assoc, List.cons_append, List.nil_append]
  · exact .inl (if_neg long)

/-- What holds of no letters and of the digits of each hextet holds of what is written. -/
theorem forall_mem_compressHextets {P : List Char → Prop} {hextets : List Nat} (empty : P [])
    (digits : ∀ hextet ∈ hextets, P (Nat.toDigits 16 hextet)) :
    ∀ part ∈ compressHextets (hextets.map (Nat.toDigits 16)), P part := by
  have each : ∀ text ∈ hextets.map (Nat.toDigits 16), P text := by
    intro text inside
    obtain ⟨hextet, listed, rfl⟩ := List.mem_map.mp inside
    exact digits hextet listed
  have edges : ∀ side : List (List Char), side ⊆ hextets.map (Nat.toDigits 16) →
      ∀ text ∈ edge side, P text := by
    intro side subset text inside
    unfold edge at inside
    split at inside
    · rw [List.mem_singleton.mp inside]
      exact empty
    · exact each text (subset inside)
  intro part listed
  rcases compressHextets_cases (hextets.map (Nat.toDigits 16)) with same | ⟨run, -, -, same⟩
  · rw [same] at listed
    exact each part listed
  · rw [same, List.mem_append, List.mem_cons] at listed
    rcases listed with upper | rfl | lower
    · exact edges _ (List.take_subset _ _) part upper
    · exact empty
    · exact edges _ (List.drop_subset _ _) part lower

theorem not_mem_compressHextets {c : Char} (sign : hexValue? c = none) {hextets : List Nat} :
    ∀ part ∈ compressHextets (hextets.map (Nat.toDigits 16)), c ∉ part :=
  forall_mem_compressHextets List.not_mem_nil fun hextet _ => not_mem_toDigits_hex sign hextet

/-- The compressed text of eight hextets is read back. -/
theorem hextetsOf_compressHextets {hextets : List Nat} (eight : hextets.length = 8)
    (small : ∀ hextet ∈ hextets, hextet < 16 ^ 4) :
    hextetsOf (compressHextets (hextets.map (Nat.toDigits 16))) = some hextets ∧
      3 ≤ (compressHextets (hextets.map (Nat.toDigits 16))).length ∧
      (compressHextets (hextets.map (Nat.toDigits 16))).length ≤ 9 := by
  have filled : ∀ text ∈ hextets.map (Nat.toDigits 16), text ≠ [] := by
    intro text inside
    obtain ⟨hextet, -, rfl⟩ := List.mem_map.mp inside
    exact Nat.toDigits_ne_nil
  have count : (hextets.map (Nat.toDigits 16)).length = 8 := (List.length_map _).trans eight
  rcases compressHextets_cases (hextets.map (Nat.toDigits 16)) with
    same | ⟨run, within, long, same⟩
  · rw [same, hextetsOf_full filled count, mapM_parseHextet small, count]
    exact ⟨rfl, by decide, by decide⟩
  · have inside := within.inside
    rw [count] at inside
    have upper : ((hextets.take run.start).map (Nat.toDigits 16)).mapM parseHextet =
        some (hextets.take run.start) :=
      mapM_parseHextet fun hextet listed => small hextet (List.mem_of_mem_take listed)
    have lower : ((hextets.drop (run.start + run.length)).map (Nat.toDigits 16)).mapM
        parseHextet = some (hextets.drop (run.start + run.length)) :=
      mapM_parseHextet fun hextet listed => small hextet (List.mem_of_mem_drop listed)
    have above : ((hextets.map (Nat.toDigits 16)).take run.start).length = run.start := by
      rw [List.length_take, count]
      omega
    have below : ((hextets.map (Nat.toDigits 16)).drop (run.start + run.length)).length =
        8 - (run.start + run.length) := by
      rw [List.length_drop, count]
    have numbers : hextets = hextets.take run.start ++ List.replicate run.length 0 ++
        hextets.drop (run.start + run.length) := by
      have parts := congrArg (List.map parseHextet) within.split
      rw [mapM_eq_some_iff.mp (mapM_parseHextet small), List.map_append, List.map_append,
        ← List.map_take, ← List.map_drop, mapM_eq_some_iff.mp upper,
        mapM_eq_some_iff.mp lower, List.map_replicate] at parts
      refine List.map_injective_iff.mpr (Option.some_injective _) ?_
      rw [parts, List.map_append, List.map_append, List.map_replicate]
      rfl
    refine ⟨?_, ?_, ?_⟩
    · rw [same, hextetsOf_gap (fun part listed => filled part (List.mem_of_mem_take listed))
        (fun part listed => filled part (List.mem_of_mem_drop listed))
        (List.map_take ▸ upper) (List.map_drop ▸ lower) (by omega), above, below]
      have zeros : 8 - (run.start + (8 - (run.start + run.length))) = run.length := by omega
      rw [zeros]
      exact congrArg some numbers.symm
    · have first := List.length_pos_iff.mpr (edge_ne_nil
        ((hextets.map (Nat.toDigits 16)).take run.start))
      have last := List.length_pos_iff.mpr (edge_ne_nil
        ((hextets.map (Nat.toDigits 16)).drop (run.start + run.length)))
      rw [same, List.length_append, List.length_cons]
      omega
    · have first := length_edge_le ((hextets.map (Nat.toDigits 16)).take run.start)
      have last := length_edge_le
        ((hextets.map (Nat.toDigits 16)).drop (run.start + run.length))
      rw [above] at first
      rw [below] at last
      rw [same, List.length_append, List.length_cons]
      omega

/-- **Eight hextets are read again.** -/
theorem ipv6Hextets_intercalate {hextets : List Nat} (eight : hextets.length = 8)
    (small : ∀ hextet ∈ hextets, hextet < 16 ^ 4) :
    ipv6Hextets ([':'].intercalate (compressHextets (hextets.map (Nat.toDigits 16)))) =
      some hextets := by
  obtain ⟨read, low, high⟩ := hextetsOf_compressHextets eight small
  have split : ([':'].intercalate (compressHextets (hextets.map (Nat.toDigits 16)))).splitOn ':' =
      compressHextets (hextets.map (Nat.toDigits 16)) := by
    refine List.splitOn_intercalate ':' (fun part listed => ?_) ?_
    · exact not_mem_compressHextets rfl part listed
    · intro none
      rw [none] at low
      cases low
  have plain : expandSuffix (compressHextets (hextets.map (Nat.toDigits 16))) =
      some (compressHextets (hextets.map (Nat.toDigits 16))) := by
    unfold expandSuffix
    split
    · rfl
    · rename_i last found
      exact if_neg (not_mem_compressHextets rfl last (List.mem_of_getLast? found))
  unfold ipv6Hextets
  rw [split, if_neg (by omega), plain]
  simp only
  rw [if_neg (by omega), read]

theorem mem_intercalate_of_two {separator : Char} {parts : List (List Char)}
    (two : 2 ≤ parts.length) : separator ∈ [separator].intercalate parts := by
  cases parts with
  | nil => cases two
  | cons part rest =>
    have more : rest ≠ [] := by
      rintro rfl
      exact Nat.not_succ_le_self 1 two
    rw [List.intercalate_cons_of_ne_nil more]
    exact List.mem_append_left _ (List.mem_append_right _ List.mem_cons_self)

/-- The spelling of eight hextets. -/
def hextetText (hextets : List Nat) : List Char :=
  [':'].intercalate (compressHextets (hextets.map (Nat.toDigits 16)))

theorem compressed_v6 (hextets : List Nat) (scopeId : Option (List Char)) :
    (SpelledAddress.v6 hextets scopeId).compressed =
      hextetText hextets ++ (scopeId.map fun letters => '%' :: letters).getD [] := rfl

theorem mem_hextetText {hextets : List Nat} {c : Char} (inside : c ∈ hextetText hextets) :
    c = ':' ∨ (hexValue? c).isSome = true := by
  obtain same | ⟨part, listed, there⟩ := mem_intercalate inside
  · exact .inl same
  · refine .inr (Option.isSome_iff_ne_none.mpr ?_)
    intro sign
    exact not_mem_compressHextets sign part listed there

theorem not_mem_hextetText {hextets : List Nat} {c : Char} (sign : hexValue? c = none)
    (other : c ≠ ':') : c ∉ hextetText hextets := by
  intro inside
  rcases mem_hextetText inside with same | digit
  · exact other same
  · rw [sign] at digit
    cases digit

theorem of_hextetsOf {parts : List (List Char)} {hextets : List Nat}
    (read : hextetsOf parts = some hextets) :
    hextets.length = 8 ∧ ∀ hextet ∈ hextets, hextet < 16 ^ 4 := by
  have small : ∀ {side : List (List Char)} {numbers : List Nat},
      side.mapM parseHextet = some numbers → ∀ number ∈ numbers, number < 16 ^ 4 := by
    intro side numbers found number inside
    obtain ⟨text, -, value⟩ := mem_of_mapM_eq_some found inside
    exact parseHextet_lt value
  unfold hextetsOf at read
  split at read
  · split at read
    · rename_i eight
      exact ⟨(length_of_mapM_eq_some read).trans eight, small read⟩
    · cases read
  · split at read
    · rename_i high low _ _
      split at read
      · rename_i room
        split at read
        · rename_i front back readFront readBack
          cases read
          refine ⟨?_, ?_⟩
          · rw [List.length_append, List.length_append, List.length_replicate,
              length_of_mapM_eq_some readFront, length_of_mapM_eq_some readBack]
            omega
          · intro hextet inside
            rw [List.mem_append, List.mem_append] at inside
            rcases inside with (upper | zero) | lower
            · exact small readFront hextet upper
            · rw [List.eq_of_mem_replicate zero]
              decide
            · exact small readBack hextet lower
        · cases read
      · cases read
    · cases read
  · cases read

theorem of_ipv6Hextets {text : List Char} {hextets : List Nat}
    (read : ipv6Hextets text = some hextets) :
    hextets.length = 8 ∧ ∀ hextet ∈ hextets, hextet < 16 ^ 4 := by
  unfold ipv6Hextets at read
  split at read
  · cases read
  · split at read
    · cases read
    · split at read
      · cases read
      · exact of_hextetsOf read

/-- **An accepted text spells an address.** -/
theorem wellFormed_of_ipAddress {text : List Char} {address : SpelledAddress}
    (read : ipAddress text = some address) : address.WellFormed := by
  unfold ipAddress at read
  split at read
  · rename_i octets found
    cases read
    obtain ⟨four, small, -⟩ := of_ipv4Address found
    exact .v4 four small
  · obtain ⟨⟨hextets, scopeId⟩, found, rfl⟩ := Option.map_eq_some_iff.mp read
    unfold ipv6Address at found
    split at found
    · cases found
    · rename_i slash
      split at found
      · obtain ⟨numbers, written, same⟩ := Option.map_eq_some_iff.mp found
        cases same
        obtain ⟨eight, small⟩ := of_ipv6Hextets written
        exact .v6 eight small fun letters none => nomatch none
      · rename_i front letters cut
        split at found
        · cases found
        · rename_i named
          rw [not_or] at named
          obtain ⟨numbers, written, same⟩ := Option.map_eq_some_iff.mp found
          cases same
          obtain ⟨eight, small⟩ := of_ipv6Hextets written
          refine .v6 eight small fun other same => ?_
          cases same
          refine ⟨named.1, named.2, fun inside => slash ?_⟩
          rw [(eq_of_partition_some cut).1]
          exact List.mem_append_right _ (List.mem_cons_of_mem _ inside)

/-- **An address is read again** from its compressed spelling. -/
theorem ipAddress_compressed {address : SpelledAddress} (formed : address.WellFormed) :
    ipAddress address.compressed = some address := by
  cases formed with
  | v4 four small =>
    unfold ipAddress SpelledAddress.compressed
    simp only [ipv4Address_intercalate four small]
  | @v6 hextets scopeId eight small named =>
    have other : ipv4Address (SpelledAddress.v6 hextets scopeId).compressed = none := by
      refine Option.eq_none_iff_forall_ne_some.mpr ?_
      intro octets found
      obtain ⟨-, low, -⟩ := hextetsOf_compressHextets eight small
      have colon : ':' ∈ (SpelledAddress.v6 hextets scopeId).compressed :=
        List.mem_append_left _ (mem_intercalate_of_two (Nat.le_of_succ_le low))
      exact absurd ((of_ipv4Address found).2.2 ':' colon) (by decide)
    have read : ipv6Address (SpelledAddress.v6 hextets scopeId).compressed =
        some (hextets, scopeId) := by
      have written : ipv6Hextets (hextetText hextets) = some hextets :=
        ipv6Hextets_intercalate eight small
      have plain : '%' ∉ hextetText hextets := not_mem_hextetText rfl (by decide)
      have slash : '/' ∉ (SpelledAddress.v6 hextets scopeId).compressed := by
        rw [compressed_v6, List.mem_append, not_or]
        refine ⟨not_mem_hextetText rfl (by decide), ?_⟩
        cases scopeId with
        | none => exact List.not_mem_nil
        | some letters =>
          rw [Option.map_some, Option.getD_some, List.mem_cons, not_or]
          exact ⟨by decide, (named letters rfl).2.2⟩
      unfold ipv6Address
      rw [if_neg slash, compressed_v6]
      cases scopeId with
      | none =>
        simp only [Option.map_none, Option.getD_none, List.append_nil,
          partition_of_not_mem plain, written, Option.map_some]
      | some letters =>
        obtain ⟨some_, single, -⟩ := named letters rfl
        simp only [Option.map_some, Option.getD_some, partition_append plain]
        rw [if_neg (not_or.mpr ⟨some_, single⟩), written]
        rfl
    unfold ipAddress
    rw [other]
    simp only [read, Option.map_some]

end ThreatScope.Library
