import FractalArchive.Proofs.Json.Grammar
import FractalArchive.Proofs.Json.Strings

/-!
# Reading and passing string literals

A literal that stands for a text spells it, so that it is read (`Literal.takes_readString`).  In a
literal that stands for none, the pieces before the code unit that stands alone are spelled, and
there is a fault at that unit (`Literal.breaks`), so that it is refused
(`Literal.readString_refuses`).  A literal that does not count is passed in either case
(`Literal.skipString`): its escapes are looked at one by one.
-/

namespace FractalArchive.Json

/-! ### Escapes -/

theorem value?_octet (d : HexDigit) : Hex.value? d.octet.toNat = some d.value.val := by
  obtain ⟨v, capital⟩ := d
  revert v capital
  decide

theorem hex4?_digits (u : CodeUnit) :
    hex4? u.first.octet u.second.octet u.third.octet u.fourth.octet = some u.value := by
  simp only [hex4?, value?_octet, CodeUnit.value]

theorem hexEscape_digits (u : CodeUnit) (rest : Octets) : hexEscape (u.digits ++ rest) =
    if isTrailing u.value then .fault .loneSurrogate 6
    else if isLeading u.value then secondEscape u.value 6 rest
    else .octets (codePoint u.value) 6 := by
  simp only [CodeUnit.digits, List.cons_append, List.nil_append, hexEscape, hex4?_digits]

theorem nextPiece_unit (u : CodeUnit) (rest : Octets) :
    nextPiece (Element.octets (.unit u) ++ rest) = hexEscape (u.digits ++ rest) := rfl

theorem secondEscape_unit (u : CodeUnit) (high : Nat) (rest : Octets) :
    secondEscape high 6 (Element.octets (.unit u) ++ rest) =
      if isTrailing u.value then
        .octets (codePoint (0x10000 + 0x400 * (high - 0xD800) + (u.value - 0xDC00))) 12
      else .fault .loneSurrogate 12 := by
  simp only [Element.octets, CodeUnit.digits, List.cons_append, List.nil_append, secondEscape,
    bne_self_eq_false, Bool.false_eq_true, if_false, hex4?_digits]

/-! ### Parts -/

theorem isPlain_of_unescaped {c : Char} (unescaped : c ≠ '\x22' ∧ c ≠ '\\' ∧ 0x20 ≤ c.toNat) :
    ∀ o ∈ String.utf8EncodeChar c, IsPlain o :=
  isPlain_encodeChar (fun e => unescaped.1 (Char.toNat_inj.mp e))
    (fun e => unescaped.2.1 (Char.toNat_inj.mp e)) unescaped.2.2

theorem Element.spells_plain {c : Char} (unescaped : c ≠ '\x22' ∧ c ≠ '\\' ∧ 0x20 ≤ c.toNat) :
    Spells (Element.plain c unescaped).octets (String.utf8EncodeChar c) :=
  Json.spells_plain (isPlain_of_unescaped unescaped)

theorem Element.spells_short (e : ShortEscape) :
    Spells (Element.short e).octets (String.utf8EncodeChar e.char) := by
  cases e <;> exact .of_next (by decide) fun _ => rfl

/-- A code unit that stands for itself is read as its character. -/
theorem Element.spells_unit {u : CodeUnit} (first : ¬ isTrailing u.value = true)
    (second : ¬ isLeading u.value = true) :
    Spells (Element.unit u).octets (String.utf8EncodeChar (Char.ofNat u.value)) := by
  refine .of_next (by simp [Element.octets]) fun rest => ?_
  rw [nextPiece_unit, hexEscape_digits, if_neg first, if_neg second]
  rfl

/-- Two code units that make a pair are read as its character. -/
theorem Element.spells_pair {u v : CodeUnit} (first : ¬ isTrailing u.value = true)
    (leading : isLeading u.value = true) (trailing : isTrailing v.value = true) :
    Spells ((Element.unit u).octets ++ (Element.unit v).octets)
      (String.utf8EncodeChar (CodeUnit.pair u v)) := by
  refine .of_next (by simp [Element.octets]) fun rest => ?_
  rw [List.append_assoc, nextPiece_unit, hexEscape_digits, if_neg first, if_pos leading,
    secondEscape_unit, if_pos trailing]
  rfl

/-- Behind a code unit that begins a pair, only an escape with digits is no fault. -/
theorem secondEscape_fault {l : Literal} (alone : ∀ v rest, l = .unit v :: rest → False)
    (high : Nat) (rest : Octets) :
    ∃ cause size, secondEscape high 6 (l.inside ++ code '\x22' :: rest) = .fault cause size := by
  cases l with
  | nil => exact ⟨_, _, rfl⟩
  | cons e more =>
      cases e with
      | unit v => exact absurd rfl (alone v more)
      | short e => cases e <;> exact ⟨_, _, rfl⟩
      | plain c unescaped =>
          obtain ⟨o, os, cons⟩ : ∃ o os, String.utf8EncodeChar c = o :: os :=
            List.exists_cons_of_ne_nil String.utf8EncodeChar_ne_nil
          have plain := isPlain_of_unescaped unescaped o (cons ▸ List.mem_cons_self)
          have other : (o != code '\\') = true := by
            simpa using fun e : o = code '\\' => plain.2.1 (e ▸ rfl)
          have octets : Literal.inside (.plain c unescaped :: more) =
              o :: (os ++ Literal.inside more) := by
            rw [Literal.inside, List.flatMap_cons, Element.octets, cons]
            rfl
          rw [octets]
          exact ⟨.endOfHexEscape, 7, if_pos other⟩

namespace Literal

variable {l : Literal} {cs : List Char}

theorem inside_cons (e : Element) (rest : Literal) :
    inside (e :: rest) = e.octets ++ inside rest :=
  List.flatMap_cons

/-! ### Literals with a text -/

/-- **A literal with a text** spells it. -/
theorem spells (h : l.text? = some cs) : Spells l.inside (Utf8.encode cs) := by
  fun_induction text? l generalizing cs with
  | case1 =>
      cases h
      exact .nil
  | case2 c unescaped rest ih =>
      obtain ⟨ds, text, rfl⟩ := Option.map_eq_some_iff.mp h
      rw [inside_cons, Utf8.encode_cons]
      exact (Element.spells_plain unescaped).append (ih text)
  | case3 e rest ih =>
      obtain ⟨ds, text, rfl⟩ := Option.map_eq_some_iff.mp h
      rw [inside_cons, Utf8.encode_cons]
      exact (Element.spells_short e).append (ih text)
  | case4 u rest trailing => cases h
  | case5 u first leading v rest trailing ih =>
      obtain ⟨ds, text, rfl⟩ := Option.map_eq_some_iff.mp h
      rw [inside_cons, inside_cons, Utf8.encode_cons, ← List.append_assoc]
      exact (Element.spells_pair first leading trailing).append (ih text)
  | case6 u first leading v rest other => cases h
  | case7 u rest first leading alone => cases h
  | case8 u rest first second ih =>
      obtain ⟨ds, text, rfl⟩ := Option.map_eq_some_iff.mp h
      rw [inside_cons, Utf8.encode_cons]
      exact (Element.spells_unit first second).append (ih text)

/-! ### Literals without a text -/

/-- A fault behind pieces that are spelled. -/
def Breaks (l : Literal) : Prop :=
  ∃ written value left, l.inside = written ++ left ∧ Spells written value ∧
    ∀ rest, ∃ cause size, nextPiece (left ++ code '\x22' :: rest) = .fault cause size

/-- What is spelled before a literal with a fault comes before the fault. -/
theorem Breaks.append {written value : Octets} {more : Literal} (h : more.Breaks)
    (before : Spells written value) (whole : l.inside = written ++ more.inside) : l.Breaks := by
  obtain ⟨written', value', left, parts, spelled, fault⟩ := h
  refine ⟨written ++ written', value ++ value', left, ?_, before.append spelled, fault⟩
  rw [whole, parts, List.append_assoc]

theorem Breaks.of_fault (fault : ∀ rest, ∃ cause size,
    nextPiece (l.inside ++ code '\x22' :: rest) = .fault cause size) : l.Breaks :=
  ⟨[], [], l.inside, rfl, .nil, fault⟩

/-- **A literal without a text** has a fault in it. -/
theorem breaks (h : l.text? = none) : l.Breaks := by
  fun_induction text? l with
  | case1 => cases h
  | case2 c unescaped rest ih =>
      exact (ih (Option.map_eq_none_iff.mp h)).append (Element.spells_plain unescaped)
        (inside_cons ..)
  | case3 e rest ih =>
      exact (ih (Option.map_eq_none_iff.mp h)).append (Element.spells_short e) (inside_cons ..)
  | case4 u rest trailing =>
      refine .of_fault fun more => ?_
      rw [inside_cons, List.append_assoc, nextPiece_unit, hexEscape_digits, if_pos trailing]
      exact ⟨_, _, rfl⟩
  | case5 u first leading v rest trailing ih =>
      refine (ih (Option.map_eq_none_iff.mp h)).append
        (Element.spells_pair first leading trailing) ?_
      rw [inside_cons, inside_cons, List.append_assoc]
  | case6 u first leading v rest other =>
      refine .of_fault fun more => ?_
      rw [inside_cons, inside_cons, List.append_assoc, List.append_assoc, nextPiece_unit,
        hexEscape_digits, if_neg first, if_pos leading, secondEscape_unit, if_neg other]
      exact ⟨_, _, rfl⟩
  | case7 u rest first leading alone =>
      refine .of_fault fun more => ?_
      rw [inside_cons, List.append_assoc, nextPiece_unit, hexEscape_digits, if_neg first,
        if_pos leading]
      exact secondEscape_fault alone _ more
  | case8 u rest first second ih =>
      exact (ih (Option.map_eq_none_iff.mp h)).append (Element.spells_unit first second)
        (inside_cons ..)

/-! ### Reading -/

/-- **A literal with a text** is read as it. -/
theorem takes_readString (h : l.text? = some cs) (rest : Octets) :
    Takes readString (l.inside ++ [code '\x22']) (String.ofList cs) rest := by
  refine Spells.takes_readString ?_ rest
  rw [octetsOf, String.toList_ofList]
  exact spells h

/-- **A literal without a text** is refused. -/
theorem readString_refuses (h : l.text? = none) (i : Nat) (rest : Octets) :
    ∃ f, readString ⟨i, l.inside ++ code '\x22' :: rest⟩ = .error f := by
  obtain ⟨written, value, left, whole, spelled, fault⟩ := breaks h
  obtain ⟨cause, size, stops⟩ := fault rest
  rw [whole, List.append_assoc]
  have enough : written.length ≤ (written ++ (left ++ code '\x22' :: rest)).length + 1 := by
    rw [List.length_append]
    omega
  obtain ⟨fuel, spent, steps⟩ :=
    spelled.readOctets_append enough [] i (left ++ code '\x22' :: rest)
  cases fuel with
  | zero =>
      simp only [List.length_append, List.length_cons] at spent
      omega
  | succ fuel =>
      have stop : ∀ read j, ∃ f,
          readOctets (fuel + 1) read ⟨j, left ++ code '\x22' :: rest⟩ = .error f := by
        intro read j
        rw [readOctets]
        simp only [stops]
        exact ⟨_, rfl⟩
      obtain ⟨f, stop⟩ := stop (value.reverse ++ []) (i + written.length)
      exact ⟨f, by rw [readString, steps, stop]⟩

end Literal

/-! ### Passing -/

/-- Octets are passed within a string that does not count. -/
def Skips (written : Octets) : Prop :=
  ∀ fuel i rest, written.length ≤ fuel → ∃ left, fuel ≤ left + written.length ∧
    skipOctets fuel ⟨i, written ++ rest⟩ = skipOctets left ⟨i + written.length, rest⟩

namespace Skips

variable {written more : Octets}

theorem nil : Skips [] := fun fuel _ _ _ => ⟨fuel, Nat.le_refl _, rfl⟩

theorem append (h : Skips written) (others : Skips more) : Skips (written ++ more) := by
  intro fuel i rest enough
  rw [List.length_append] at enough
  obtain ⟨between, spent, first⟩ := h fuel i (more ++ rest) (by omega)
  obtain ⟨left, spent', second⟩ := others between (i + written.length) rest (by omega)
  refine ⟨left, by rw [List.length_append]; omega, ?_⟩
  rw [List.append_assoc, first, second, List.length_append, Nat.add_assoc]

theorem of_next (nonempty : written ≠ [])
    (next : ∀ rest, skipPiece (written ++ rest) = .octets [] written.length) : Skips written := by
  intro fuel i rest enough
  have := List.length_pos_iff.mpr nonempty
  cases fuel with
  | zero => omega
  | succ fuel =>
      refine ⟨fuel, by omega, ?_⟩
      rw [skipOctets, next]
      simp only
      rw [advance_append]

end Skips

theorem skips_plain {octets : Octets} (h : ∀ o ∈ octets, IsPlain o) : Skips octets := by
  induction octets with
  | nil => exact .nil
  | cons o rest ih =>
      rw [List.forall_mem_cons] at h
      obtain ⟨⟨quote, slash, control⟩, plain⟩ := h
      have noQuote : o ≠ code '\x22' := fun e => quote (e ▸ rfl)
      have noSlash : o ≠ code '\\' := fun e => slash (e ▸ rfl)
      have noControl : ¬ o < 0x20 := fun lt => Nat.not_lt.mpr control (UInt8.lt_iff_toNat_lt.mp lt)
      have one : Skips [o] := .of_next (by simp) fun more => by
        simp [skipPiece, noQuote, noSlash, noControl]
      exact one.append (ih plain)

theorem Element.skips (e : Element) : Skips e.octets := by
  cases e with
  | plain c unescaped => exact skips_plain (isPlain_of_unescaped unescaped)
  | short e => cases e <;> exact .of_next (by decide) fun _ => rfl
  | unit u =>
      refine .of_next (by simp [octets]) fun rest => ?_
      have taken : skipPiece ((Element.unit u).octets ++ rest) =
          if (hex4? u.first.octet u.second.octet u.third.octet u.fourth.octet).isSome then
            .octets [] 6
          else .fault .invalidEscape 6 := rfl
      rw [taken, hex4?_digits]
      rfl

/-- **Any literal** is passed. -/
theorem Literal.skipString (l : Literal) (i : Nat) (rest : Octets) :
    ∃ j, skipString ⟨i, l.inside ++ code '\x22' :: rest⟩ = .ok ⟨j, rest⟩ := by
  have skips : Skips l.inside := by
    induction l with
    | nil => exact .nil
    | cons e rest ih =>
        rw [inside_cons]
        exact e.skips.append ih
  have enough : l.inside.length ≤ (l.inside ++ code '\x22' :: rest).length + 1 := by
    rw [List.length_append]
    omega
  obtain ⟨left, spent, steps⟩ := skips _ i (code '\x22' :: rest) enough
  cases left with
  | zero =>
      rw [List.length_append] at spent
      omega
  | succ left => exact ⟨_, steps⟩

end FractalArchive.Json
