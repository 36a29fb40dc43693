import XdpEcho.Proofs.Text.Numerals
import XdpEcho.Text.MacAddress

/-!
# Which texts are link addresses

A link address is written as six numerals of base sixteen with colons between them, each of at most 255. The usual text
has two digits for each octet, but a plus sign and any number of zeros in front are let through.

* `Text.fields_eq_splitOn` — a text is cut at every separator.
* `MacAddress.Spells`, `MacAddress.usualText` — the texts of an address, and the usual one of them.
* `MacAddress.octet?_eq_some_iff` — which parts are octets.
* `MacAddress.parse?_eq_some_iff_spells` — which texts are addresses, and of what.
* `MacAddress.accepts_what_is_spelled` — these and no other texts are accepted, the usual ones among them.
-/

namespace XdpEcho

/-! ### Parts of a text -/

theorem Text.fields_eq_splitOn (separator : Char) (text : List Char) :
    fields separator text = text.splitOn separator := by
  induction text with
  | nil => rfl
  | cons c rest ih =>
    rw [fields, ih, List.splitOn_cons_eq_if_modifyHead]
    by_cases same : c = separator
    · rw [if_pos same, if_pos (beq_iff_eq.mpr same)]
    · rw [if_neg same, if_neg (mt beq_iff_eq.mp same)]
      cases cut : rest.splitOn separator with
      | nil => exact (List.splitOn_ne_nil separator rest cut).elim
      | cons field others => rfl

namespace MacAddress

variable {text part : List Char} {parts : List (List Char)} {octets : List UInt8} {m : MacAddress} {x : UInt8}

/-! ### Texts of an address -/

/-- The text spells the address: cut at every colon it has six parts, and each of them is a numeral of base sixteen for
the octet in its place. -/
structure Spells (text : List Char) (m : MacAddress) : Prop where
  six : (text.splitOn ':').length = 6
  octets : List.Forall₂ (fun part octet => Number.Writes 16 part octet.toNat) (text.splitOn ':') m.toList

/-- The usual text of one octet: its two digits, in lower case. -/
def octetText (x : UInt8) : List Char :=
  [Bytes.hexDigit (x.toNat / 16), Bytes.hexDigit (x.toNat % 16)]

/-- The usual text of an address. -/
def usualText (m : MacAddress) : List Char :=
  [':'].intercalate (m.toList.map octetText)

/-! ### Octets -/

theorem isDigit_hexDigit : ∀ value < 16, Number.IsDigit 16 (Bytes.hexDigit value) value := by
  simp only [← Number.digit?_eq_some_iff]
  decide

theorem hexDigit_ne_colon : ∀ value < 16, Bytes.hexDigit value ≠ ':' := by
  decide

/-- Exactly the numerals of at most 255 are octets. -/
theorem octet?_eq_some_iff : octet? part = some x ↔ Number.Writes 16 part x.toNat := by
  have read (n : Nat) : Number.parse 16 255 part = .ok n ↔ n ≤ 255 ∧ Number.Writes 16 part n :=
    Number.parse_eq_ok_iff (by decide)
  have lt := x.toNat_lt
  rw [octet?]
  cases result : Number.parse 16 255 part with
  | error cause =>
    refine ⟨nofun, fun writes => ?_⟩
    rw [(read x.toNat).mpr ⟨by omega, writes⟩] at result
    cases result
  | ok n =>
    obtain ⟨le, writes⟩ := (read n).mp result
    dsimp only
    rw [Option.some.injEq]
    constructor
    · rintro rfl
      rwa [UInt8.toNat_ofNat', Nat.mod_eq_of_lt (by omega)]
    · intro writes'
      have same := (read x.toNat).mpr ⟨by omega, writes'⟩
      rw [result, Except.ok.injEq] at same
      rw [same, UInt8.ofNat_toNat]

theorem mapM_octet?_eq_some_iff :
    parts.mapM octet? = some octets ↔
      List.Forall₂ (fun part octet => Number.Writes 16 part octet.toNat) parts octets := by
  induction parts generalizing octets with
  | nil => simp [eq_comm]
  | cons part rest ih =>
    simp only [List.mapM_cons, Option.bind_eq_bind, Option.bind_eq_some_iff, Option.pure_def, Option.some.injEq,
      List.forall₂_cons_left_iff, octet?_eq_some_iff, ih]
    constructor
    · rintro ⟨x, writes, octets, run, rfl⟩
      exact ⟨x, octets, writes, run, rfl⟩
    · rintro ⟨x, octets, writes, run, rfl⟩
      exact ⟨x, writes, octets, run, rfl⟩

/-! ### Addresses -/

/-- Exactly the texts of an address are read as that address. -/
theorem parse?_eq_some_iff_spells : parse? text = some m ↔ Spells text m := by
  rw [parse?, Text.fields_eq_splitOn]
  have agree {octets : List UInt8} (read : (text.splitOn ':').mapM octet? = some octets) (h : Spells text m) :
      octets = m.toList := by
    rw [mapM_octet?_eq_some_iff.mpr h.octets, Option.some.injEq] at read
    exact read.symm
  cases read : (text.splitOn ':').mapM octet? with
  | none =>
    refine ⟨nofun, fun h => ?_⟩
    rw [mapM_octet?_eq_some_iff.mpr h.octets] at read
    cases read
  | some octets =>
    have run := mapM_octet?_eq_some_iff.mp read
    dsimp only
    split
    next six =>
      rw [Option.some.injEq]
      constructor
      · rintro rfl
        exact ⟨run.length_eq.trans six, by simpa [Vector.toList] using run⟩
      · intro h
        rw [← Vector.toList_inj, ← agree read h]
        rfl
    next other =>
      refine ⟨nofun, fun h => (other ?_).elim⟩
      rw [agree read h, Vector.length_toList]

theorem exists_octet_iff : (∃ octet : UInt8, Number.Writes 16 part octet.toNat) ↔ ∃ n ≤ 255, Number.Writes 16 part n := by
  constructor
  · rintro ⟨octet, writes⟩
    have lt := octet.toNat_lt
    exact ⟨octet.toNat, by omega, writes⟩
  · rintro ⟨n, le, writes⟩
    refine ⟨UInt8.ofNat n, ?_⟩
    rwa [UInt8.toNat_ofNat', Nat.mod_eq_of_lt (by omega)]

/-- Parts are the texts of octets together when each of them is. -/
theorem exists_octets_iff :
    (∃ octets, List.Forall₂ (fun part (octet : UInt8) => Number.Writes 16 part octet.toNat) parts octets) ↔
      ∀ part ∈ parts, ∃ n ≤ 255, Number.Writes 16 part n := by
  induction parts with
  | nil => simp
  | cons part rest ih =>
    rw [List.forall_mem_cons, ← ih, ← exists_octet_iff]
    constructor
    · rintro ⟨octets, run⟩
      cases run with
      | cons first later => exact ⟨⟨_, first⟩, _, later⟩
    · rintro ⟨⟨octet, first⟩, octets, later⟩
      exact ⟨octet :: octets, .cons first later⟩

theorem exists_spells_iff :
    (∃ m, Spells text m) ↔
      (text.splitOn ':').length = 6 ∧ ∀ part ∈ text.splitOn ':', ∃ n ≤ 255, Number.Writes 16 part n := by
  rw [← exists_octets_iff]
  constructor
  · rintro ⟨m, h⟩
    exact ⟨h.six, m.toList, h.octets⟩
  · rintro ⟨six, octets, run⟩
    have length : octets.length = 6 := run.length_eq.symm.trans six
    exact ⟨⟨octets.toArray, by simp [length]⟩, six, by simpa [Vector.toList] using run⟩

/-- A text is refused when it has not six parts, or when some part is not a numeral of at most 255. -/
theorem parse?_eq_none_iff :
    parse? text = none ↔
      (text.splitOn ':').length ≠ 6 ∨ ∃ part ∈ text.splitOn ':', ∀ n, Number.Writes 16 part n → 255 < n := by
  have accepted : parse? text = none ↔ ¬ ∃ m, Spells text m := by
    simp only [← parse?_eq_some_iff_spells, Option.eq_none_iff_forall_ne_some, not_exists, ne_eq]
  have refused (part : List Char) :
      (¬ ∃ n ≤ 255, Number.Writes 16 part n) ↔ ∀ n, Number.Writes 16 part n → 255 < n := by
    simp only [not_exists, not_and']
    exact forall₂_congr fun n _ => not_le
  rw [accepted, exists_spells_iff, not_and_or]
  simp only [not_forall, exists_prop, refused, ne_eq]

/-! ### The usual text -/

theorem writes_octetText (x : UInt8) : Number.Writes 16 (octetText x) x.toNat := by
  have lt := x.toNat_lt
  refine ⟨[], octetText x, [x.toNat / 16, x.toNat % 16], rfl, .inl rfl, List.cons_ne_nil _ _, ?_, ?_⟩
  · exact .cons (isDigit_hexDigit _ (by omega)) (.cons (isDigit_hexDigit _ (by omega)) .nil)
  · simp only [List.reverse_cons, List.reverse_nil, List.nil_append, List.cons_append, Nat.ofDigits_cons, Nat.ofDigits_nil]
    omega

theorem splitOn_usualText (m : MacAddress) : (usualText m).splitOn ':' = m.toList.map octetText := by
  refine List.splitOn_intercalate ':' ?_ ?_
  · intro part mem colon
    obtain ⟨x, -, rfl⟩ := List.mem_map.mp mem
    have lt := x.toNat_lt
    rcases List.mem_pair.mp colon with high | low
    · exact hexDigit_ne_colon _ (by omega) high.symm
    · exact hexDigit_ne_colon _ (by omega) low.symm
  · rw [Ne, List.map_eq_nil_iff, ← List.length_eq_zero_iff, Vector.length_toList]
    decide

/-- The usual text of an address spells it. -/
theorem spells_usualText (m : MacAddress) : Spells (usualText m) m := by
  refine ⟨?_, ?_⟩
  · rw [splitOn_usualText, List.length_map, Vector.length_toList]
  · rw [splitOn_usualText, List.forall₂_map_left_iff]
    exact List.forall₂_same.mpr fun x _ => writes_octetText x

/-- A text is read as an address exactly when it spells it: it has six parts between its colons, and each part is
digits of base sixteen, with at most a plus sign before them, for the octet in its place. Every other text is refused,
for another number of parts or for a part which is no such numeral of at most 255. The usual text of every address is
read back as it. -/
theorem accepts_what_is_spelled :
    (∀ text m, parse? text = some m ↔ Spells text m) ∧
      (∀ text, parse? text = none ↔
        (text.splitOn ':').length ≠ 6 ∨ ∃ part ∈ text.splitOn ':', ∀ n, Number.Writes 16 part n → 255 < n) ∧
      ∀ m, parse? (usualText m) = some m :=
  ⟨fun _ _ => parse?_eq_some_iff_spells, fun _ => parse?_eq_none_iff,
    fun m => parse?_eq_some_iff_spells.mpr (spells_usualText m)⟩

example : parse? ['+', '0', 'a', ':', '0', '0', '1', ':', 'F', 'f', ':', '0', ':', '2', ':', '3'] =
    some #v[10, 1, 255, 0, 2, 3] := by
  decide

end MacAddress

end XdpEcho
