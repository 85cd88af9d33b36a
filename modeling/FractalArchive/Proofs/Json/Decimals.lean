import FractalArchive.Proofs.Json.Grammar
import FractalArchive.Proofs.Json.Integers

/-!
# Reading and passing number literals

A number literal is read as an id where it is an integer of 64 bits with a sign (`Decimal.int?`),
and is refused otherwise (`Decimal.readId_eq`): a fraction or an exponent never makes an integer
(`notInteger_scaled`), nor do digits that 64 bits do not hold.  A number literal that does not count
is passed whatever its value is (`Decimal.skip_eq`).
-/

namespace FractalArchive.Json

open Numeral (afterWhole afterFraction readFraction readExponent ofParts)

/-! ### Numbers that are no integers -/

/-- Reading a number fails or gives a double. -/
structure NotInteger (r : Except Fault (Numeral × Cursor)) : Prop where
  ne : ∀ n c, r ≠ .ok (.integer n, c)

section NotInteger

variable (negative : Bool) (significand : Nat) (e : Int) (c : Cursor)

theorem notInteger_error (f : Fault) : NotInteger (.error f) := ⟨nofun⟩

theorem notInteger_real (x : Number.Binary64) : NotInteger (.ok (.real negative x, c)) := ⟨nofun⟩

theorem NotInteger.ite {p : Prop} [Decidable p] {r r' : Except Fault (Numeral × Cursor)}
    (h : NotInteger r) (h' : NotInteger r') : NotInteger (if p then r else r') := by
  by_cases hp : p
  · rwa [if_pos hp]
  · rwa [if_neg hp]

theorem notInteger_ofParts : NotInteger (ofParts negative significand e c) := by
  unfold ofParts
  simp only
  split
  · exact notInteger_real ..
  · exact notInteger_error ..

theorem notInteger_readExponent : NotInteger (readExponent negative significand e c) := by
  unfold readExponent
  simp only
  split
  · exact notInteger_error ..
  split
  · exact notInteger_error ..
  split
  · exact .ite (notInteger_error _) (notInteger_real ..)
  · exact notInteger_ofParts ..

theorem notInteger_afterFraction : NotInteger (afterFraction negative significand e c) := by
  unfold afterFraction
  split
  · exact .ite (notInteger_readExponent ..) (notInteger_ofParts ..)
  · exact notInteger_ofParts ..

theorem notInteger_readFraction : NotInteger (readFraction negative significand e c) := by
  unfold readFraction
  exact .ite (notInteger_error _) (notInteger_afterFraction ..)

/-- **A fraction or an exponent** makes a number no integer. -/
theorem notInteger_scaled {o : UInt8} (mark : o = code '.' ∨ o = code 'e' ∨ o = code 'E')
    (dropped i : Nat) (rest : Octets) :
    NotInteger (afterWhole negative significand dropped ⟨i, o :: rest⟩) := by
  rcases mark with rfl | rfl | rfl
  · exact notInteger_readFraction ..
  · exact notInteger_readExponent ..
  · exact notInteger_readExponent ..

/-- Digits that are left out make a number no integer. -/
theorem notInteger_dropped {dropped : Nat} (some : dropped ≠ 0) :
    NotInteger (afterWhole negative significand dropped c) := by
  unfold afterWhole
  simp only [if_pos some]
  split
  · exact notInteger_ofParts ..
  · exact .ite (notInteger_readFraction ..)
      (.ite (notInteger_readExponent ..) (notInteger_ofParts ..))

/-- Zero with a sign is no integer, nor is what lies below the least one. -/
theorem notInteger_negative {m : Nat} (h : m = 0 ∨ Numeral.signedLimit < m) :
    NotInteger (afterWhole true m 0 c) := by
  unfold afterWhole
  simp only [ne_eq, not_true, Bool.not_true, if_pos h, if_false]
  split
  · exact notInteger_real ..
  · exact .ite (notInteger_readFraction ..)
      (.ite (notInteger_readExponent ..) (notInteger_real ..))

end NotInteger

/-- Digits that are all taken have a value that 64 bits hold. -/
theorem ofDigitChars_of_takeDigits {cs : List Char} {value v : Nat}
    (digits : ∀ c ∈ cs, c.isDigit = true) (bound : value < Numeral.limit)
    (all : Numeral.takeDigits value (cs.map code) = (v, [])) :
    Nat.ofDigitChars 10 cs value < Numeral.limit := by
  induction cs generalizing value with
  | nil => exact bound
  | cons c rest ih =>
      rw [List.forall_mem_cons] at digits
      obtain ⟨low, high⟩ := toNat_of_isDigit digits.1
      have digit : Numeral.digitValue (code c) = c.toNat - '0'.toNat := by
        rw [Numeral.digitValue, toNat_code (by omega)]
        rfl
      rw [List.map_cons, Numeral.takeDigits, digit] at all
      split at all
      next next =>
        rw [Nat.ofDigitChars_cons]
        exact ih digits.2 next all
      · cases all

/-- The digits of a number that 64 bits do not hold are not all taken. -/
theorem dropped_of_le {m : Nat} (large : Numeral.limit ≤ m) :
    (Numeral.takeDigits 0 ((Nat.toDigits 10 m).map code)).2.length ≠ 0 := by
  intro none
  have all : Numeral.takeDigits 0 ((Nat.toDigits 10 m).map code) =
      ((Numeral.takeDigits 0 ((Nat.toDigits 10 m).map code)).1, []) :=
    Prod.ext rfl (List.eq_nil_of_length_eq_zero none)
  have bound := ofDigitChars_of_takeDigits
    (fun c => Nat.isDigit_of_mem_toDigits (by decide) (by decide)) (by decide) all
  rw [Nat.ofDigitChars_ten_toDigits] at bound
  omega

namespace Decimal

variable (n : Decimal) {rest : Octets}

/-! ### Parts of a literal -/

/-- The integer of a number that has been read. -/
def idOf : Except Fault (Numeral × Cursor) → Except Fault (Int × Cursor)
  | .error f => .error f
  | .ok (.integer n, c) =>
    if n < Numeral.signedLimit then .ok (n, c)
    else .error (c.fault (.invalidValue (.integer n) "i64"))
  | .ok (x, c) => .error (c.fault (.invalidType x.unexpected "i64"))

theorem idOf_of_notInteger {r : Except Fault (Numeral × Cursor)} (h : NotInteger r) :
    ∃ f, idOf r = .error f := by
  rcases r with f | ⟨n | ⟨negative, x⟩, c⟩
  · exact ⟨f, rfl⟩
  · exact absurd rfl (h.ne n c)
  · exact ⟨_, rfl⟩

theorem octets_append (rest : Octets) : n.octets ++ rest =
    (if n.negative then [code '-'] else []) ++ (n.wholeDigits ++ (n.scale ++ rest)) := by
  simp [octets]

/-- The first of the digits before the point. -/
theorem exists_cons_wholeDigits :
    ∃ o os, n.wholeDigits = o :: os ∧ isDigit o = true := by
  obtain ⟨o, os, cons⟩ : ∃ o os, n.wholeDigits = o :: os :=
    List.exists_cons_of_ne_nil (by simp [wholeDigits])
  exact ⟨o, os, cons, isDigit_of_mem (cons ▸ List.mem_cons_self : o ∈ n.wholeDigits)⟩

/-- Behind the digits before the point comes a mark, or the end of the literal. -/
theorem scale_cases : (n.scale = [] ∧ n.fraction = none ∧ n.exponent = none) ∨
    ((n.fraction.isSome ∨ n.exponent.isSome) ∧
      ∃ o os, n.scale = o :: os ∧ (o = code '.' ∨ o = code 'e' ∨ o = code 'E')) := by
  obtain ⟨negative, whole, fraction, exponent⟩ := n
  cases fraction with
  | some digits => exact .inr ⟨.inl rfl, _, _, rfl, .inl rfl⟩
  | none =>
      cases exponent with
      | none => exact .inl ⟨rfl, rfl, rfl⟩
      | some e =>
          refine .inr ⟨.inr rfl, _, _, rfl, ?_⟩
          cases e.capital with
          | true => exact .inr (.inr rfl)
          | false => exact .inr (.inl rfl)

theorem endsDigits_scale (ends : EndsNumber rest) : EndsDigits (n.scale ++ rest) := by
  rcases n.scale_cases with ⟨nil, -, -⟩ | ⟨-, o, os, cons, mark⟩
  · rw [nil]
    exact ends.endsDigits
  · rw [cons]
    rintro _ ⟨⟩
    rcases mark with rfl | rfl | rfl <;> decide

/-! ### Reading -/

theorem readId_octets (i : Nat) (rest : Octets) : ∃ j, readId ⟨i, n.octets ++ rest⟩ =
    idOf (Numeral.read n.negative ⟨j, n.wholeDigits ++ (n.scale ++ rest)⟩) := by
  rw [octets_append]
  cases n.negative with
  | true =>
      refine ⟨i + 1, ?_⟩
      rw [if_pos rfl, List.singleton_append, readId, skipBlanks_cons (by decide)]
      simp only [Cursor.peek?, List.head?_cons, beq_self_eq_true, if_true, advance_cons]
      rfl
  | false =>
      refine ⟨i, ?_⟩
      obtain ⟨o, os, cons, digit⟩ := n.exists_cons_wholeDigits
      obtain ⟨blank, sign⟩ := ne_of_isDigit o digit
      rw [if_neg (by decide), List.nil_append, cons, List.cons_append, readId,
        skipBlanks_cons blank]
      simp only [Cursor.peek?, List.head?_cons, beq_iff_eq, sign, digit, if_false, if_true]
      rfl

theorem idOf_false (ends : EndsNumber rest) (m i : Nat) :
    match (if m ≤ 9223372036854775807 then some (m : Int) else none) with
    | some a => ∃ j, idOf (afterWhole false m 0 ⟨i, rest⟩) = .ok (a, ⟨j, rest⟩)
    | none => ∃ f, idOf (afterWhole false m 0 ⟨i, rest⟩) = .error f := by
  rw [afterWhole_false ends]
  have limit : Numeral.signedLimit = 9223372036854775808 := rfl
  by_cases fits : m ≤ 9223372036854775807
  · have below : (m : Int) < Numeral.signedLimit := by omega
    rw [if_pos fits]
    exact ⟨i, by rw [idOf, if_pos below]⟩
  · have above : ¬ (m : Int) < Numeral.signedLimit := by omega
    rw [if_neg fits]
    exact ⟨_, by rw [idOf, if_neg above]⟩

theorem idOf_true (ends : EndsNumber rest) (m i : Nat) :
    match (if 0 < m ∧ m ≤ 9223372036854775808 then some (-(m : Int)) else none) with
    | some a => ∃ j, idOf (afterWhole true m 0 ⟨i, rest⟩) = .ok (a, ⟨j, rest⟩)
    | none => ∃ f, idOf (afterWhole true m 0 ⟨i, rest⟩) = .error f := by
  have limit : Numeral.signedLimit = 9223372036854775808 := rfl
  by_cases fits : 0 < m ∧ m ≤ 9223372036854775808
  · rw [if_pos fits, afterWhole_true ends fits.1 (by omega)]
    have below : -(m : Int) < Numeral.signedLimit := by omega
    exact ⟨i, by rw [idOf, if_pos below]⟩
  · rw [if_neg fits]
    exact idOf_of_notInteger (notInteger_negative _ (by omega))

/-- **A number literal is read** as an id if it is a 64-bit integer with a sign, and is refused
otherwise. -/
theorem readId_eq (ends : EndsNumber rest) (i : Nat) :
    match n.int? with
    | some a => ∃ j, readId ⟨i, n.octets ++ rest⟩ = .ok (a, ⟨j, rest⟩)
    | none => ∃ f, readId ⟨i, n.octets ++ rest⟩ = .error f := by
  obtain ⟨k, start⟩ := n.readId_octets i rest
  obtain ⟨j, digits⟩ := read_digits (n.endsDigits_scale ends) n.whole n.negative k
  rw [start, wholeDigits, digits]
  rcases n.scale_cases with ⟨nil, noFraction, noExponent⟩ | ⟨scaled, o, os, cons, mark⟩
  · rw [nil, List.nil_append, int?, if_neg (by simp [noFraction, noExponent])]
    by_cases bound : n.whole < Numeral.limit
    · rw [takeDigits_toDigits bound]
      cases n.negative with
      | true => exact idOf_true ends n.whole j
      | false => exact idOf_false ends n.whole j
    · -- Such a number has no integer in either case.
      have large : Numeral.limit = 18446744073709551616 := rfl
      have none : (if n.negative = true then
          if 0 < n.whole ∧ n.whole ≤ 9223372036854775808 then some (-(n.whole : Int)) else none
        else if n.whole ≤ 9223372036854775807 then some (n.whole : Int) else none) = none := by
        cases n.negative with
        | true => rw [if_pos rfl, if_neg (by omega)]
        | false => rw [if_neg (by decide), if_neg (by omega)]
      rw [none]
      exact idOf_of_notInteger (notInteger_dropped _ _ _ (dropped_of_le (by omega)))
  · have none : n.int? = none := if_pos scaled
    rw [none, cons]
    exact idOf_of_notInteger (notInteger_scaled _ _ mark _ _ _)

/-! ### Passing -/

/-- A digit is no sign. -/
theorem signs_of_isDigit : ∀ o : UInt8, isDigit o = true →
    (o == code '+') = false ∧ (o == code '-') = false :=
  forall_octet (by decide +kernel)

theorem digitsAt_digits (d : Digits) (ends : EndsDigits rest) (i : Nat) :
    Numeral.digitsAt ⟨i, d.octets ++ rest⟩ = (d.octets, ⟨i + d.octets.length, rest⟩) :=
  digitsAt_append d.digits ends i

theorem skipExponent_octets (e : Exponent) (ends : EndsDigits rest) (i : Nat) :
    ∃ j, Numeral.skipExponent ⟨i, e.octets ++ rest⟩ = .ok ⟨j, rest⟩ := by
  obtain ⟨capital, sign, digits⟩ := e
  obtain ⟨o, os, cons⟩ := List.exists_cons_of_ne_nil digits.nonempty
  have digit : isDigit o = true := digits.digits o (cons ▸ List.mem_cons_self)
  obtain ⟨plus, minus⟩ := signs_of_isDigit o digit
  have passed := fun i => digitsAt_digits digits ends i
  rw [cons, List.cons_append] at passed
  cases sign with
  | none =>
      refine ⟨i + 1 + (o :: os).length, ?_⟩
      simp only [Exponent.octets, Option.elim, cons, List.nil_append, List.cons_append,
        Numeral.skipExponent, advance_cons, Cursor.peek?, List.head?_cons, plus, minus,
        Bool.or_self, Bool.false_eq_true, if_false, digit, if_true, passed]
  | some negative =>
      refine ⟨i + 1 + 1 + (o :: os).length, ?_⟩
      have signed : (code (if negative then '-' else '+') == code '+' ||
          code (if negative then '-' else '+') == code '-') = true := by
        cases negative <;> rfl
      simp only [Exponent.octets, Option.elim, cons, List.nil_append, List.cons_append,
        Numeral.skipExponent, advance_cons, Cursor.peek?, List.head?_cons, signed, digit, if_true,
        passed]

/-- An exponent is passed, if there is one. -/
theorem skipOptionalExponent_eq (exponent : Option Exponent) (ends : EndsNumber rest) (i : Nat) :
    ∃ j, Numeral.skipOptionalExponent ⟨i, exponent.elim [] Exponent.octets ++ rest⟩ =
      .ok ⟨j, rest⟩ := by
  cases exponent with
  | some e =>
      obtain ⟨j, passed⟩ := skipExponent_octets e ends.endsDigits i
      have mark : (code (if e.capital then 'E' else 'e') == code 'e' ||
          code (if e.capital then 'E' else 'e') == code 'E') = true := by
        cases e.capital <;> rfl
      refine ⟨j, ?_⟩
      rw [← passed]
      simp only [Option.elim, Exponent.octets, Numeral.skipOptionalExponent, Cursor.peek?,
        List.cons_append, List.head?_cons, mark, if_true]
  | none =>
      refine ⟨i, ?_⟩
      cases rest with
      | nil => rfl
      | cons o rest =>
          obtain ⟨-, -, small, capital⟩ := ends o rfl
          simp [Numeral.skipOptionalExponent, Cursor.peek?, small, capital]

/-- What stands behind a whole number or a fraction is no digit and no point. -/
theorem head_exponent (exponent : Option Exponent) (ends : EndsNumber rest) :
    ∀ o ∈ (exponent.elim [] Exponent.octets ++ rest).head?, isDigit o = false ∧ o ≠ code '.' := by
  cases exponent with
  | none => exact fun o ho => ⟨(ends o ho).1, (ends o ho).2.1⟩
  | some e =>
      rintro _ ⟨⟩
      cases e.capital <;> decide

theorem skipAfterWhole_of_ne {c : Cursor} (noPoint : ∀ o ∈ c.rest.head?, o ≠ code '.') :
    Numeral.skipAfterWhole c = Numeral.skipOptionalExponent c := by
  unfold Numeral.skipAfterWhole Numeral.skipOptionalExponent Cursor.peek?
  cases first : c.rest.head? with
  | none => rfl
  | some o => simp [noPoint o first]

theorem skipAfterWhole_scale (ends : EndsNumber rest) (i : Nat) :
    ∃ j, Numeral.skipAfterWhole ⟨i, n.scale ++ rest⟩ = .ok ⟨j, rest⟩ := by
  obtain ⟨negative, whole, fraction, exponent⟩ := n
  have head := head_exponent exponent ends
  cases fraction with
  | none =>
      obtain ⟨j, passed⟩ := skipOptionalExponent_eq exponent ends i
      exact ⟨j, (skipAfterWhole_of_ne fun o ho => (head o ho).2).trans passed⟩
  | some digits =>
      have fraction := digitsAt_digits digits (fun o ho => (head o ho).1) (i + 1)
      obtain ⟨j, passed⟩ :=
        skipOptionalExponent_eq exponent ends (i + 1 + digits.octets.length)
      refine ⟨j, ?_⟩
      have present : digits.octets.isEmpty = false := by simpa using digits.nonempty
      have parts : scale ⟨negative, whole, some digits, exponent⟩ ++ rest =
          code '.' :: (digits.octets ++ (exponent.elim [] Exponent.octets ++ rest)) := by
        simp [scale]
      rw [parts]
      simp only [Numeral.skipAfterWhole, Cursor.peek?, List.head?_cons, beq_self_eq_true, if_true,
        advance_cons, fraction, present, Bool.false_eq_true, if_false, passed]

/-- **A number literal is passed** behind its sign. -/
theorem skip_eq (ends : EndsNumber rest) (i : Nat) :
    ∃ j, Numeral.skip ⟨i, n.wholeDigits ++ (n.scale ++ rest)⟩ = .ok ⟨j, rest⟩ := by
  have stops := n.endsDigits_scale ends
  by_cases zero : n.whole = 0
  · obtain ⟨j, passed⟩ := n.skipAfterWhole_scale ends (i + 1)
    have stop : ((n.scale ++ rest).head?.map isDigit).getD false = false := by
      cases first : (n.scale ++ rest).head? with
      | none => rfl
      | some o => exact stops o first
    refine ⟨j, ?_⟩
    rw [wholeDigits, zero]
    show (if ((n.scale ++ rest).head?.map isDigit).getD false then _ else _) = _
    rw [stop]
    exact passed
  · have whole := digitsAt_append (fun o => isDigit_of_mem (m := n.whole)) stops i
    obtain ⟨o, os, e, noZero, digit⟩ := exists_cons_toDigits (m := n.whole) (by omega)
    obtain ⟨j, passed⟩ := n.skipAfterWhole_scale ends (i + (o :: os).length)
    rw [e] at whole
    rw [wholeDigits, e, List.cons_append]
    rw [List.cons_append] at whole
    refine ⟨j, ?_⟩
    rw [Numeral.skip]
    simp only [noZero, digit, whole]
    exact passed

end Decimal

end FractalArchive.Json
