import Transclude.Decimal.Literal
import Transclude.Proofs.Decimal.Nearest
import Transclude.Proofs.Text.Run

/-!
# Number texts that are read

A number text is read as the float that is nearest to the number written (`reads_iff`). That powers of
ten far outside the range of floats are not worked out makes no difference (`rounds_ofScientific`).
-/

namespace Transclude.Decimal

open Transclude.Text

/-- A number far below the least positive float is rounded to zero. -/
theorem rounds_zero (negative : Bool) {q : ℚ} (positive : 0 ≤ q) (tiny : q < 2 ^ (-1075 : ℤ)) :
    Rounds negative q (decode (nearest negative 0 1)) := by
  have zero : decode (nearest negative 0 1) = .finite negative 0 (-1074) :=
    @decode_finite negative 0 0 (by decide) (.inr rfl) (by decide)
  have less : q < overflow :=
    tiny.trans_le ((zpow_le_zpow_right₀ one_le_two (by decide)).trans le_overflow)
  rw [zero]
  refine .finite less fun y negative' m' e' finite => ?_
  obtain ⟨-, field, rfl, -, -, -⟩ := toBits_of_decode finite
  rcases Nat.eq_zero_or_pos m' with rfl | some
  · simp
  · have least : (2 : ℚ) ^ (-1074 : ℤ) ≤ m' * 2 ^ (field - 1074 : ℤ) := by
      have one : (1 : ℚ) ≤ m' := by exact_mod_cast some
      have low : (2 : ℚ) ^ (-1074 : ℤ) ≤ 2 ^ (field - 1074 : ℤ) :=
        zpow_le_zpow_right₀ one_le_two (by omega)
      exact low.trans (le_mul_of_one_le_left (by positivity) one)
    have half : (2 : ℚ) ^ (-1074 : ℤ) = 2 * 2 ^ (-1075 : ℤ) := by
      rw [show (-1074 : ℤ) = -1075 + 1 from rfl, zpow_add_one₀ two_ne_zero, mul_comm]
    refine .inl ?_
    rw [Nat.cast_zero, zero_mul, sub_zero, abs_of_nonneg positive, abs_of_neg (by linarith)]
    linarith

/-- From this power of ten on numbers are rounded to infinity. -/
theorem overflow_le_ten_zpow {e : ℤ} (great : 400 ≤ e) : overflow ≤ 10 ^ e := by
  obtain ⟨k, rfl⟩ := Int.eq_ofNat_of_zero_le (by omega : 0 ≤ e)
  calc overflow ≤ 2 ^ (1024 : ℤ) := overflow_le
    _ ≤ 2 ^ ((3 * k : ℕ) : ℤ) := zpow_le_zpow_right₀ one_le_two (by omega)
    _ = (2 ^ 3) ^ k := by rw [zpow_natCast, pow_mul]
    _ ≤ 10 ^ k := pow_le_pow_left₀ (by norm_num) (by norm_num) k
    _ = 10 ^ (k : ℤ) := (zpow_natCast _ _).symm

/-- A number is far below the least positive float if its power of ten outweighs its digits. -/
theorem mul_ten_zpow_lt {n : ℕ} {e : ℤ} (tiny : e + (n.log2 : ℤ) < -1200) :
    (n * 10 ^ e : ℚ) < 2 ^ (-1075 : ℤ) := by
  have bound : (n : ℚ) < 2 ^ (n.log2 + 1 : ℤ) := by exact_mod_cast Nat.lt_log2_self (n := n)
  have power : (10 : ℚ) ^ e ≤ 2 ^ e := by
    obtain ⟨k, rfl⟩ : ∃ k : ℕ, e = -k := ⟨(-e).toNat, by omega⟩
    rw [zpow_neg, zpow_neg, zpow_natCast, zpow_natCast]
    gcongr
    norm_num
  calc (n * 10 ^ e : ℚ) < 2 ^ (n.log2 + 1 : ℤ) * 10 ^ e := by gcongr
    _ ≤ 2 ^ (n.log2 + 1 : ℤ) * 2 ^ e := by gcongr
    _ = 2 ^ (n.log2 + 1 + e : ℤ) := (zpow_add₀ two_ne_zero _ _).symm
    _ ≤ 2 ^ (-1075 : ℤ) := zpow_le_zpow_right₀ one_le_two (by omega)

/-- Powers of ten that are not worked out make no difference. -/
theorem rounds_ofScientific (negative : Bool) (n : ℕ) (e : ℤ) :
    Rounds negative (n * 10 ^ e) (decode (ofScientific negative n e)) := by
  unfold ofScientific
  by_cases nothing : n = 0
  · rw [if_pos nothing]
    exact rounds_zero negative (by positivity) (by rw [nothing]; simp)
  rw [if_neg nothing]
  by_cases great : 400 < e
  · -- The exponent is kept behind a name, so that its power of ten is not worked out here.
    obtain ⟨k, shift⟩ : ∃ k : ℕ, k = 400 := ⟨_, rfl⟩
    have high : overflow ≤ (10 : ℚ) ^ (k : ℤ) := overflow_le_ten_zpow (by omega)
    have some : (1 : ℚ) ≤ n := by exact_mod_cast Nat.pos_of_ne_zero nothing
    have rounds := rounds_nearest negative (Nat.pow 10 k) one_ne_zero
    rw [if_pos great, ← shift, rounds.eq_infinite (by simpa using high)]
    exact .infinite ((overflow_le_ten_zpow great.le).trans (le_mul_of_one_le_left (by positivity) some))
  rw [if_neg great]
  by_cases tiny : e + (n.log2 : ℤ) < -1200
  · rw [if_pos tiny]
    exact rounds_zero negative (by positivity) (mul_ten_zpow_lt tiny)
  rw [if_neg tiny]
  by_cases whole : 0 ≤ e
  · obtain ⟨k, rfl⟩ := Int.eq_ofNat_of_zero_le whole
    have rounds := rounds_nearest negative (n * Nat.pow 10 k) one_ne_zero
    rw [if_pos whole]
    simpa using rounds
  · obtain ⟨k, rfl⟩ : ∃ k : ℕ, e = -k := ⟨(-e).toNat, by omega⟩
    have rounds := @rounds_nearest negative n (Nat.pow 10 k) (by simp)
    rw [if_neg whole]
    simpa [div_eq_mul_inv] using rounds

/-- The texts of a sign, and whether it is a minus. -/
inductive Sign : List Char → Bool → Prop where
  | none : Sign [] false
  | plus : Sign ['+'] false
  | minus : Sign ['-'] true

/-- A run of decimal digits that is not empty. -/
def Digits (ds : List Char) : Prop :=
  ds ≠ [] ∧ ∀ c ∈ ds, c ∈ "0123456789".toList

/-- The texts of digits of which some may stand behind a point, with all the digits and the number of those
behind the point. -/
inductive Mantissa : List Char → List Char → ℕ → Prop where
  | whole {ds : List Char} (digits : Digits ds) : Mantissa ds ds 0
  | pointed {whole places : List Char} (digits : Digits (whole ++ places)) :
      Mantissa (whole ++ '.' :: places) (whole ++ places) places.length

/-- The texts of a power of ten; without one it is the first. -/
inductive Power : List Char → ℤ → Prop where
  | none : Power [] 0
  | written {mark : Char} {sign ds : List Char} {negative : Bool} (marked : mark = 'e' ∨ mark = 'E')
      (signed : Sign sign negative) (digits : Digits ds) :
      Power (mark :: (sign ++ ds))
        (if negative then -(Nat.ofDigitChars 10 ds 0 : ℤ) else Nat.ofDigitChars 10 ds 0)

/-- The texts of a number with a sign, `n · 10 ^ e`. -/
inductive Numeral : List Char → Bool → ℕ → ℤ → Prop where
  | mk {sign body tail ds : List Char} {negative : Bool} {places : ℕ} {power : ℤ}
      (signed : Sign sign negative) (mantissa : Mantissa body ds places) (scaled : Power tail power) :
      Numeral (sign ++ body ++ tail) negative (Nat.ofDigitChars 10 ds 0) (power - places)

theorem isDigit_iff {c : Char} : isDigit c = true ↔ c ∈ "0123456789".toList := by
  have digits : ∀ c ∈ "0123456789".toList, isDigit c = true := forall_mem_of_all (by decide)
  exact ⟨mem_digits_of_isDigit, digits c⟩

theorem digits_iff {ds : List Char} : Digits ds ↔ ds.isEmpty = false ∧ ds.all isDigit = true := by
  simp only [Digits, ← isDigit_iff, List.all_eq_true, List.isEmpty_eq_false_iff]

theorem Digits.isDigit {ds : List Char} (digits : Digits ds) : ∀ c ∈ ds, Text.isDigit c = true :=
  fun c member => isDigit_iff.2 (digits.2 c member)

theorem signed?_append {sign rest : List Char} {negative : Bool} (signed : Sign sign negative)
    (plain : ∀ c ∈ rest.head?, c ≠ '-' ∧ c ≠ '+') : signed? (sign ++ rest) = (negative, rest) := by
  cases signed with
  | none =>
    rw [List.nil_append]
    unfold signed?
    split
    · exact absurd rfl (plain '-' rfl).1
    · exact absurd rfl (plain '+' rfl).2
    · rfl
  | plus | minus => rfl

theorem exists_sign (cs : List Char) : ∃ sign, Sign sign (signed? cs).1 ∧ cs = sign ++ (signed? cs).2 := by
  unfold signed?
  split
  · exact ⟨['-'], .minus, rfl⟩
  · exact ⟨['+'], .plus, rfl⟩
  · exact ⟨[], .none, rfl⟩

theorem Digits.head_plain {ds : List Char} (digits : Digits ds) :
    ∀ c ∈ ds.head?, c ≠ '-' ∧ c ≠ '+' := by
  have unsigned : ∀ c ∈ "0123456789".toList, c ≠ '-' ∧ c ≠ '+' := forall_mem_of_all (by decide)
  exact fun c first => unsigned c (digits.2 c (List.mem_of_mem_head? first))

theorem exponent?_eq_some_iff {cs : List Char} {e : ℤ} :
    exponent? cs = some e ↔ ∃ sign ds negative, Sign sign negative ∧ Digits ds ∧ cs = sign ++ ds ∧
      e = if negative then -(Nat.ofDigitChars 10 ds 0 : ℤ) else Nat.ofDigitChars 10 ds 0 := by
  constructor
  · intro read
    obtain ⟨sign, signed, whole⟩ := exists_sign cs
    unfold exponent? at read
    dsimp only at read
    split at read
    · cases read
    · next proper =>
      have digits : Digits (signed? cs).2 := digits_iff.2 (by simpa using proper)
      exact ⟨sign, _, _, signed, digits, whole, (Option.some.inj read).symm⟩
  · rintro ⟨sign, ds, negative, signed, digits, rfl, rfl⟩
    obtain ⟨some, all⟩ := digits_iff.1 digits
    unfold exponent?
    simp only [signed?_append signed digits.head_plain, some, all]
    rfl

theorem power?_eq_some_iff {rest : List Char} {e : ℤ} :
    (match rest with
      | [] => some 0
      | 'e' :: rest => exponent? rest
      | 'E' :: rest => exponent? rest
      | _ => none) = some e ↔ Power rest e := by
  constructor
  · intro read
    split at read
    · cases read
      exact .none
    · obtain ⟨sign, ds, negative, signed, digits, rfl, rfl⟩ := exponent?_eq_some_iff.1 read
      exact .written (.inl rfl) signed digits
    · obtain ⟨sign, ds, negative, signed, digits, rfl, rfl⟩ := exponent?_eq_some_iff.1 read
      exact .written (.inr rfl) signed digits
    · cases read
  · intro power
    cases power with
    | none => rfl
    | written marked signed digits =>
      have read := exponent?_eq_some_iff.2 ⟨_, _, _, signed, digits, rfl, rfl⟩
      rcases marked with rfl | rfl <;> exact read

theorem Power.head_solid {tail : List Char} {e : ℤ} (power : Power tail e) :
    ∀ c ∈ tail.head?, Text.isDigit c = false := by
  cases power with
  | none => exact fun _ => nofun
  | written marked => rcases marked with rfl | rfl <;> simp [Text.isDigit]

theorem exists_of_unsigned? {negative : Bool} {cs : List Char} {x : Float}
    (read : unsigned? negative cs = some x) :
    ∃ body tail ds places power, cs = body ++ tail ∧ Mantissa body ds places ∧ Power tail power ∧
      x = ofScientific negative (Nat.ofDigitChars 10 ds 0) (power - places) := by
  have inside : ∀ {cs : List Char}, ∀ c ∈ cs.takeWhile isDigit, c ∈ "0123456789".toList :=
    fun c member => isDigit_iff.1 (List.mem_takeWhile_imp member)
  have front := (List.takeWhile_append_dropWhile (p := isDigit) (l := cs)).symm
  unfold unsigned? at read
  simp only [List.span_eq_takeWhile_dropWhile] at read
  split at read
  · next after point =>
    have behind := (List.takeWhile_append_dropWhile (p := isDigit) (l := after)).symm
    split at read
    · cases read
    · next shown =>
      obtain ⟨power, powered, rfl⟩ := Option.map_eq_some_iff.1 read
      have digits : Digits (cs.takeWhile isDigit ++ after.takeWhile isDigit) :=
        ⟨by simpa using shown, List.forall_mem_append.2 ⟨inside, inside⟩⟩
      refine ⟨_, _, _, _, power, ?_, .pointed digits, power?_eq_some_iff.1 powered, rfl⟩
      rw [List.append_assoc, List.cons_append, ← behind, ← point, ← front]
  · split at read
    · cases read
    · next shown =>
      obtain ⟨power, powered, rfl⟩ := Option.map_eq_some_iff.1 read
      have digits : Digits (cs.takeWhile isDigit) := ⟨by simpa using shown, inside⟩
      refine ⟨_, _, _, _, power, front, .whole digits, power?_eq_some_iff.1 powered, ?_⟩
      rw [List.append_nil]
      rfl

theorem unsigned?_append (negative : Bool) {body tail ds : List Char} {places : ℕ} {power : ℤ}
    (mantissa : Mantissa body ds places) (powered : Power tail power) :
    unsigned? negative (body ++ tail) =
      some (ofScientific negative (Nat.ofDigitChars 10 ds 0) (power - places)) := by
  have solid := powered.head_solid
  unfold unsigned?
  cases mantissa with
  | whole digits =>
    have pointless : ∀ after, tail ≠ '.' :: after := by
      rintro after rfl
      cases powered with
      | written marked => rcases marked with equal | equal <;> cases equal
    simp only [List.span_eq_takeWhile_dropWhile, takeWhile_run digits.isDigit solid,
      dropWhile_run digits.isDigit solid]
    rw [if_neg (by simpa using digits.1), List.append_nil]
    exact Option.map_eq_some_iff.2 ⟨power, power?_eq_some_iff.2 powered, rfl⟩
  | @pointed whole places digits =>
    have solid' : ∀ c ∈ ('.' :: (places ++ tail)).head?, Text.isDigit c = false := by
      simp [Text.isDigit]
    obtain ⟨inside, behind⟩ := List.forall_mem_append.1 digits.isDigit
    rw [List.append_assoc, List.cons_append]
    simp only [List.span_eq_takeWhile_dropWhile, takeWhile_run inside solid',
      dropWhile_run inside solid', takeWhile_run behind solid, dropWhile_run behind solid]
    rw [if_neg (by simpa using digits.1)]
    exact Option.map_eq_some_iff.2 ⟨power, power?_eq_some_iff.2 powered, rfl⟩

theorem Mantissa.exists_cons {body ds : List Char} {places : ℕ} (mantissa : Mantissa body ds places) :
    ∃ c cs, body = c :: cs ∧ (c = '.' ∨ c ∈ "0123456789".toList) := by
  cases mantissa with
  | whole digits =>
    obtain ⟨c, cs, rfl⟩ := List.exists_cons_of_ne_nil digits.1
    exact ⟨c, cs, rfl, .inr (digits.2 c List.mem_cons_self)⟩
  | @pointed whole places digits =>
    cases whole with
    | nil => exact ⟨'.', places, rfl, .inl rfl⟩
    | cons c cs => exact ⟨c, _, rfl, .inr (digits.2 c List.mem_cons_self)⟩

theorem read?_of_numeral {cs : List Char} {negative : Bool} {n : ℕ} {e : ℤ}
    (numeral : Numeral cs negative n e) : read? cs = some (ofScientific negative n e) := by
  have plain : ∀ c ∈ '.' :: "0123456789".toList,
      (c ≠ '-' ∧ c ≠ '+') ∧ c.toLower ≠ 'i' ∧ c.toLower ≠ 'n' := forall_mem_of_all (by decide)
  obtain ⟨signed, mantissa, powered⟩ := numeral
  have read := unsigned?_append negative mantissa powered
  obtain ⟨c, cs, rfl, first⟩ := mantissa.exists_cons
  obtain ⟨unsigned, other, other'⟩ := plain c (List.mem_cons.2 first)
  unfold read?
  rw [List.append_assoc, signed?_append signed (by simpa using unsigned)]
  simpa [other, other'] using read

/-- No other text is read as a finite float. -/
theorem read?_eq_some_iff {cs : List Char} {x : Float} (finite : isFinite x = true) :
    read? cs = some x ↔ ∃ negative n e, Numeral cs negative n e ∧ x = ofScientific negative n e := by
  constructor
  · intro read
    have infinite : ∀ negative : Bool, isFinite (Float.ofBits
        (if negative then 0xFFF0000000000000 else 0x7FF0000000000000)) = false := by decide +kernel
    have undefined : isFinite (Float.ofBits 0x7FF8000000000000) = false := by decide +kernel
    obtain ⟨sign, signed, whole⟩ := exists_sign cs
    unfold read? at read
    dsimp only at read
    generalize signed? cs = parts at *
    obtain ⟨negative, rest⟩ := parts
    split at read
    · cases read
      exact absurd ((infinite negative).symm.trans finite) Bool.false_ne_true
    · split at read
      · cases read
        exact absurd (undefined.symm.trans finite) Bool.false_ne_true
      · obtain ⟨body, tail, ds, places, power, split, mantissa, powered, rfl⟩ :=
          exists_of_unsigned? read
        refine ⟨_, _, _, ?_, rfl⟩
        rw [whole, show rest = body ++ tail from split, ← List.append_assoc]
        exact .mk signed mantissa powered
  · rintro ⟨negative, n, e, numeral, rfl⟩
    exact read?_of_numeral numeral

/-- The texts that are read as a finite float, the one nearest to the number written. -/
inductive Reads (cs : List Char) : Float → Prop where
  | mk {negative : Bool} {n : ℕ} {e : ℤ} {x : Float} (numeral : Numeral cs negative n e)
      (less : (n * 10 ^ e : ℚ) < overflow) (rounds : Rounds negative (n * 10 ^ e) (decode x)) :
      Reads cs x

theorem isFinite_iff_of_rounds {negative : Bool} {q : ℚ} {x : Float}
    (rounds : Rounds negative q (decode x)) : isFinite x = true ↔ q < overflow := by
  unfold isFinite
  generalize decode x = decoded at rounds
  cases rounds with
  | finite less => simp [less]
  | infinite high => simp [high]

theorem reads_iff {cs : List Char} {x : Float} :
    Reads cs x ↔ read? cs = some x ∧ isFinite x = true := by
  constructor
  · rintro ⟨numeral, less, rounds⟩
    have finite := (isFinite_iff_of_rounds rounds).2 less
    obtain rfl := eq_of_rounds rounds (rounds_ofScientific _ _ _)
    exact ⟨(read?_eq_some_iff finite).2 ⟨_, _, _, numeral, rfl⟩, finite⟩
  · rintro ⟨read, finite⟩
    obtain ⟨negative, n, e, numeral, rfl⟩ := (read?_eq_some_iff finite).1 read
    have rounds := rounds_ofScientific negative n e
    exact ⟨numeral, (isFinite_iff_of_rounds rounds).1 finite, rounds⟩

/-- A decimal without an exponent: whether it has a minus, the digits before the point, and the digits
behind the point if it has one. Only behind a minus may the point come first. -/
structure Plain where
  negative : Bool
  whole : List Char
  places : Option (List Char)
  digits : ∀ c ∈ whole ++ places.getD [], isDigit c = true
  nonempty : whole ++ places.getD [] ≠ []
  leading : negative = false → whole ≠ []

namespace Plain

/-- A decimal without its sign. -/
def body (d : Plain) : List Char :=
  d.whole ++ d.places.elim [] ('.' :: ·)

def text (d : Plain) : List Char :=
  if d.negative then '-' :: d.body else d.body

def float (d : Plain) : Float :=
  nearest d.negative (value (d.whole ++ d.places.getD [])) (Nat.pow 10 (d.places.getD []).length)

variable (d : Plain)

theorem mem_body {c : Char} (member : c ∈ d.body) : isDigit c = true ∨ c = '.' := by
  have digits := d.digits c
  unfold body at member
  cases same : d.places with
  | none => simp_all
  | some places =>
    simp only [same, Option.getD_some, Option.elim_some, List.mem_append, List.mem_cons] at digits member
    rcases member with whole | rfl | behind
    · exact .inl (digits (.inl whole))
    · exact .inr rfl
    · exact .inl (digits (.inr behind))

/-- A decimal starts with its minus or with a digit, and goes on with digits and a point. -/
theorem exists_cons_text : ∃ c cs, d.text = c :: cs ∧ (isDigit c = true ∨ c = '-') ∧
    ∀ x ∈ cs, isDigit x = true ∨ x = '.' := by
  by_cases sign : d.negative = true
  · exact ⟨'-', d.body, if_pos sign, .inr rfl, fun _ => d.mem_body⟩
  · obtain ⟨c, cs, split⟩ := List.exists_cons_of_ne_nil (d.leading (by simpa using sign))
    have split' : d.body = c :: (cs ++ d.places.elim [] ('.' :: ·)) := by
      rw [body, split, List.cons_append]
    refine ⟨c, _, (if_neg sign).trans split', .inl (d.digits c (by simp [split])), fun x member => ?_⟩
    exact d.mem_body (by rw [split']; exact List.mem_cons_of_mem c member)

theorem numeral :
    Numeral d.text d.negative (value (d.whole ++ d.places.getD [])) (0 - (d.places.getD []).length) := by
  have digits : Digits (d.whole ++ d.places.getD []) :=
    ⟨d.nonempty, fun c member => isDigit_iff.1 (d.digits c member)⟩
  have mantissa : Mantissa d.body (d.whole ++ d.places.getD []) (d.places.getD []).length := by
    unfold body
    cases same : d.places with
    | none =>
      have whole : Digits d.whole := by simpa [same] using digits
      simpa using Mantissa.whole whole
    | some places => exact .pointed (by simpa [same] using digits)
  have whole : d.text = (if d.negative then ['-'] else []) ++ d.body ++ [] := by
    unfold text
    cases d.negative <;> simp
  rw [whole]
  refine .mk ?_ mantissa .none
  cases d.negative
  · exact .none
  · exact .minus

theorem read?_text : read? d.text = some d.float := by
  have rounds := rounds_ofScientific d.negative (value (d.whole ++ d.places.getD []))
    (0 - (d.places.getD []).length)
  have nearest := @rounds_nearest d.negative (value (d.whole ++ d.places.getD []))
    (Nat.pow 10 (d.places.getD []).length) (by simp)
  rw [read?_of_numeral d.numeral]
  refine congrArg some (eq_of_rounds rounds ?_)
  simpa [div_eq_mul_inv, float] using nearest

end Plain

end Transclude.Decimal
