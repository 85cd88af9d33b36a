import FractalArchive.Proofs.Json.Decimals
import FractalArchive.Proofs.Json.Literals

/-!
# Passing values

A value of any depth that does not count is passed from its first token to its last, in any layout
(`Value.passed`).  The stack of what is open around a place is the same before and after a value;
the items of a list and the members of an object are passed one after another up to the end of the
frame that they are in (`passAll_value`, `passAll_items`, `passAll_members`).

Every token takes an octet and at most two steps, so that the fuel lasts as long as twice the number
of octets that are left does not exceed it.
-/

namespace FractalArchive.Json

variable {tokens : List Octets} {octets : Octets}

/-! ### Layout -/

/-- A blank octet is none that goes on with a number. -/
theorem endsNumber_blank : ∀ o : UInt8, Cursor.isBlankOctet o = true →
    isDigit o = false ∧ o ≠ code '.' ∧ o ≠ code 'e' ∧ o ≠ code 'E' :=
  forall_octet (by decide +kernel)

/-- Behind a value comes a comma, the end of what it is in, or the end of the text. -/
def Follows (tokens : List Octets) : Prop :=
  ∀ t ∈ tokens.head?, t = [code ','] ∨ t = [code ']'] ∨ t = [code '\x7d']

theorem skipBlanks_append {blanks : Octets}
    (blank : ∀ o ∈ blanks, Cursor.isBlankOctet o = true) {o : UInt8}
    (visible : Cursor.isBlankOctet o = false) (i : Nat) (rest : Octets) :
    (Cursor.mk i (blanks ++ o :: rest)).skipBlanks = ⟨i + blanks.length, o :: rest⟩ := by
  unfold Cursor.skipBlanks
  rw [List.takeWhile_append_of_pos blank, List.takeWhile_cons_of_neg (by simp [visible]),
    List.append_nil, advance_append]

namespace Laid

/-- The white space before a token is skipped. -/
theorem skipBlanks {o : UInt8} {more : Octets} (h : Laid ((o :: more) :: tokens) octets)
    (visible : Cursor.isBlankOctet o = false) (i : Nat) :
    ∃ j rest, (Cursor.mk i octets).skipBlanks = ⟨j, o :: (more ++ rest)⟩ ∧ Laid tokens rest ∧
      rest.length + more.length + 1 ≤ octets.length := by
  cases h with
  | token blank _ others =>
      refine ⟨_, _, skipBlanks_append blank visible i _, others, ?_⟩
      simp only [List.length_append, List.length_cons]
      omega

/-- No white space need be before a token. -/
theorem bare {rest : Octets} (others : Laid tokens rest) (t : Octets) :
    Laid (t :: tokens) (t ++ rest) :=
  .token (List.forall_mem_nil _) t others

/-- What is left behind some tokens is no longer than the text. -/
theorem drop {before : List Octets} (h : Laid (before ++ tokens) octets) :
    ∃ rest, Laid tokens rest ∧ rest.length ≤ octets.length := by
  induction before generalizing octets with
  | nil => exact ⟨octets, h, Nat.le_refl _⟩
  | cons t before ih =>
      cases h with
      | token _ _ others =>
          obtain ⟨rest, left, shorter⟩ := ih others
          refine ⟨rest, left, ?_⟩
          simp only [List.length_append]
          omega

/-- What follows a number ends it. -/
theorem endsNumber (h : Laid tokens octets) (follows : Follows tokens) : EndsNumber octets := by
  cases h with
  | blank blank => exact fun o ho => endsNumber_blank o (blank o (List.mem_of_mem_head? ho))
  | @token blanks blank t tokens rest others =>
      cases blanks with
      | cons b blanks =>
          rintro _ ⟨⟩
          exact endsNumber_blank b (blank b List.mem_cons_self)
      | nil =>
          rcases follows t rfl with rfl | rfl | rfl <;>
            · rintro _ ⟨⟩
              decide

end Laid

/-! ### Tokens -/

/-- The letters of a word are passed. -/
theorem passWord_letters (letters : List Char) (i : Nat) (rest : Octets) :
    ∃ j, passWord letters ⟨i, letters.map code ++ rest⟩ = .ok ⟨j, rest⟩ := by
  induction letters generalizing i with
  | nil => exact ⟨i, rfl⟩
  | cons l letters ih =>
      obtain ⟨j, passed⟩ := ih (i + 1)
      refine ⟨j, ?_⟩
      rw [List.map_cons, List.cons_append, passWord]
      simp only [Cursor.peek?, List.head?_cons, beq_self_eq_true, if_true, advance_cons, passed]

theorem passStart_word (w : Word) (i : Nat) (rest : Octets) :
    ∃ j, passStart ⟨i, w.letters.map code ++ rest⟩ = .ok (.passed ⟨j, rest⟩) := by
  have passed := fun letters => passWord_letters letters (i + 1) rest
  cases w with
  | null =>
      obtain ⟨j, passed⟩ := passed ['u', 'l', 'l']
      exact ⟨j, congrArg (Except.map Start.passed) passed⟩
  | boolean b =>
      cases b with
      | true =>
          obtain ⟨j, passed⟩ := passed ['r', 'u', 'e']
          exact ⟨j, congrArg (Except.map Start.passed) passed⟩
      | false =>
          obtain ⟨j, passed⟩ := passed ['a', 'l', 's', 'e']
          exact ⟨j, congrArg (Except.map Start.passed) passed⟩

theorem passStart_string (l : Literal) (i : Nat) (rest : Octets) :
    ∃ j, passStart ⟨i, l.octets ++ rest⟩ = .ok (.passed ⟨j, rest⟩) := by
  obtain ⟨j, passed⟩ := l.skipString (i + 1) rest
  refine ⟨j, ?_⟩
  have whole : l.octets ++ rest = code '\x22' :: (l.inside ++ code '\x22' :: rest) := by
    simp [Literal.octets]
  rw [whole]
  exact congrArg (Except.map Start.passed) passed

/-- A digit starts a number and nothing else. -/
theorem start_of_isDigit : ∀ o : UInt8, isDigit o = true →
    (o == code 'n') = false ∧ (o == code 't') = false ∧ (o == code 'f') = false ∧
      (o == code '-') = false :=
  forall_octet (by decide +kernel)

theorem passStart_number (n : Decimal) {rest : Octets} (ends : EndsNumber rest) (i : Nat) :
    ∃ j, passStart ⟨i, n.octets ++ rest⟩ = .ok (.passed ⟨j, rest⟩) := by
  rw [n.octets_append]
  cases n.negative with
  | true =>
      obtain ⟨j, passed⟩ := n.skip_eq ends (i + 1)
      exact ⟨j, congrArg (Except.map Start.passed) passed⟩
  | false =>
      obtain ⟨j, passed⟩ := n.skip_eq ends i
      obtain ⟨o, os, cons, digit⟩ := n.exists_cons_wholeDigits
      obtain ⟨notN, notT, notF, noSign⟩ := start_of_isDigit o digit
      refine ⟨j, ?_⟩
      rw [cons] at passed ⊢
      rw [List.cons_append] at passed
      rw [if_neg (by decide), List.nil_append, List.cons_append]
      simp only [passStart, Cursor.peek?, List.head?_cons, notN, notT, notF, noSign, digit, passed,
        Bool.false_eq_true, if_false, if_true]
      rfl

/-- A token with which a value starts. -/
def Starts (token : Octets) : Prop :=
  ∃ o more, token = o :: more ∧ Cursor.isBlankOctet o = false ∧ (o == code ',') = false ∧
    (o == code ']') = false ∧ (o == code '\x7d') = false

theorem starts_word (w : Word) : Starts (w.letters.map code) := by
  cases w with
  | null => exact ⟨_, _, rfl, by decide⟩
  | boolean b => cases b <;> exact ⟨_, _, rfl, by decide⟩

theorem start_of_number : ∀ o : UInt8, (o == code '-' || isDigit o) = true →
    (Cursor.isBlankOctet o = false ∧ (o == code ',') = false ∧ (o == code ']') = false ∧
      (o == code '\x7d') = false) ∧ (o == code '\x22') = false :=
  forall_octet (by decide +kernel)

/-- A number starts with a sign or a digit. -/
theorem Decimal.exists_cons_octets (n : Decimal) :
    ∃ o more, n.octets = o :: more ∧ (o == code '-' || isDigit o) = true := by
  rw [octets]
  cases n.negative with
  | true => exact ⟨_, _, rfl, by decide⟩
  | false =>
      obtain ⟨o, os, cons, digit⟩ := n.exists_cons_wholeDigits
      rw [if_neg (by decide), List.nil_append, cons]
      exact ⟨o, _, rfl, by simp [digit]⟩

theorem starts_number (n : Decimal) : Starts n.octets := by
  obtain ⟨o, more, cons, start⟩ := n.exists_cons_octets
  exact ⟨o, more, cons, (start_of_number o start).1⟩

theorem starts_string (l : Literal) : Starts l.octets :=
  ⟨_, _, rfl, by decide⟩

/-- A value starts with a token. -/
theorem Value.exists_cons_tokens (v : Value) : ∃ t tail, v.tokens = t :: tail ∧ Starts t := by
  cases v with
  | word w => exact ⟨_, _, rfl, starts_word w⟩
  | number n => exact ⟨_, _, rfl, starts_number n⟩
  | string l => exact ⟨_, _, rfl, starts_string l⟩
  | list items => exact ⟨_, _, rfl, _, _, rfl, by decide⟩
  | object members => exact ⟨_, _, rfl, _, _, rfl, by decide⟩

/-! ### Steps -/

section Steps

variable {fuel : Nat} {comma : Bool} {stack : List Frame} {c c' : Cursor}

/-- Passing comes behind a value, with this stack around it and these tokens left. -/
def Reaches (r : Except Fault Cursor) (stack : List Frame) (tokens : List Octets) : Prop :=
  ∃ left j rest, r = passAll left false true stack ⟨j, rest⟩ ∧ Laid tokens rest ∧
    2 * rest.length + 1 ≤ left

/-- A value of one token is passed. -/
theorem passAll_token {t : Octets} (starts : Starts t)
    (passes : ∀ i rest, EndsNumber rest → ∃ j, passStart ⟨i, t ++ rest⟩ = .ok (.passed ⟨j, rest⟩))
    (laid : Laid (t :: tokens) octets) (follows : Follows tokens)
    (enough : 2 * octets.length ≤ fuel) (comma : Bool) (stack : List Frame) (i : Nat) :
    Reaches (passAll fuel true comma stack ⟨i, octets⟩) stack tokens := by
  obtain ⟨o, more, rfl, visible, -⟩ := starts
  obtain ⟨j, rest, skipped, others, shorter⟩ := laid.skipBlanks visible i
  obtain ⟨k, passed⟩ := passes j rest (others.endsNumber follows)
  cases fuel with
  | zero => omega
  | succ fuel =>
      refine ⟨fuel, k, rest, ?_, others, by omega⟩
      rw [List.cons_append] at passed
      rw [passAll, skipped, passed]

/-- A frame is opened. -/
theorem passAll_open (frame : Frame) {o : UInt8}
    (opens : ∀ i rest, passStart ⟨i, o :: rest⟩ = .ok (.opened frame ⟨i + 1, rest⟩))
    (visible : Cursor.isBlankOctet o = false) (laid : Laid ([o] :: tokens) octets)
    (enough : 2 * octets.length ≤ fuel) (comma : Bool) (stack : List Frame) (i : Nat) :
    ∃ left j rest, passAll fuel true comma stack ⟨i, octets⟩ =
        passAll left false false (frame :: stack) ⟨j, rest⟩ ∧
      Laid tokens rest ∧ 2 * rest.length + 1 ≤ left := by
  obtain ⟨j, rest, skipped, others, shorter⟩ := laid.skipBlanks visible i
  cases fuel with
  | zero => omega
  | succ fuel =>
      refine ⟨fuel, j + 1, rest, ?_, others, by omega⟩
      rw [passAll, skipped, List.nil_append, opens]

/-- A frame is closed. -/
theorem passAll_close (frame : Frame) (laid : Laid ([frame.closing] :: tokens) octets)
    (enough : 2 * octets.length + 1 ≤ fuel) (comma : Bool) (stack : List Frame) (i : Nat) :
    Reaches (passAll fuel false comma (frame :: stack) ⟨i, octets⟩) stack tokens := by
  have visible : Cursor.isBlankOctet frame.closing = false := by cases frame <;> decide
  have noComma : (frame.closing == code ',') = false := by cases frame <;> decide
  obtain ⟨j, rest, skipped, others, shorter⟩ := laid.skipBlanks visible i
  cases fuel with
  | zero => omega
  | succ fuel =>
      refine ⟨fuel, j + 1, rest, ?_, others, by omega⟩
      rw [passAll]
      simp only [skipped, Cursor.peek?, List.head?_cons, noComma, Bool.false_and,
        Bool.false_eq_true, if_false, beq_self_eq_true, if_true, List.nil_append, advance_cons]

/-- A comma leads to the next value of a frame. -/
theorem passAll_comma (frame : Frame) {between : List Octets}
    (leads : ∀ i octets, Laid between octets → ∃ j rest,
      passToValue frame ⟨i, octets⟩ = .ok ⟨j, rest⟩ ∧ Laid tokens rest ∧
        rest.length ≤ octets.length)
    (laid : Laid ([code ','] :: between) octets) (enough : 2 * octets.length + 1 ≤ fuel)
    (stack : List Frame) (i : Nat) :
    ∃ left j rest, passAll fuel false true (frame :: stack) ⟨i, octets⟩ =
        passAll left true false (frame :: stack) ⟨j, rest⟩ ∧
      Laid tokens rest ∧ 2 * rest.length ≤ left := by
  obtain ⟨j, rest, skipped, others, shorter⟩ := laid.skipBlanks (by decide) i
  obtain ⟨k, rest', led, others', shorter'⟩ := leads (j + 1) rest others
  cases fuel with
  | zero => omega
  | succ fuel =>
      refine ⟨fuel, k, rest', ?_, others', by omega⟩
      rw [passAll]
      simp only [skipped, Cursor.peek?, List.head?_cons, beq_self_eq_true, Bool.and_self, if_true,
        List.nil_append, advance_cons, led]

/-- The first value of a frame comes without a comma. -/
theorem passAll_first (frame : Frame) {t : Octets} {between : List Octets} (starts : Starts t)
    (leads : ∀ i octets, Laid (t :: between) octets → ∃ j rest,
      passToValue frame ⟨i, octets⟩ = .ok ⟨j, rest⟩ ∧ Laid tokens rest ∧
        rest.length ≤ octets.length)
    (laid : Laid (t :: between) octets) (enough : 2 * octets.length + 1 ≤ fuel)
    (stack : List Frame) (i : Nat) :
    ∃ left j rest, passAll fuel false false (frame :: stack) ⟨i, octets⟩ =
        passAll left true false (frame :: stack) ⟨j, rest⟩ ∧
      Laid tokens rest ∧ 2 * rest.length ≤ left := by
  obtain ⟨o, more, rfl, visible, -, noList, noObject⟩ := starts
  obtain ⟨j, rest, skipped, others, shorter⟩ := laid.skipBlanks visible i
  have again : Laid ((o :: more) :: between) (o :: (more ++ rest)) := others.bare (o :: more)
  obtain ⟨k, rest', led, others', shorter'⟩ := leads j _ again
  have noClosing : (o == frame.closing) = false := by
    cases frame with
    | list => exact noList
    | object => exact noObject
  cases fuel with
  | zero => omega
  | succ fuel =>
      have left : 2 * rest'.length ≤ fuel := by
        simp only [List.length_cons, List.length_append] at shorter'
        omega
      refine ⟨fuel, k, rest', ?_, others', left⟩
      rw [passAll]
      simp only [skipped, Cursor.peek?, List.head?_cons, Bool.and_false, noClosing,
        Bool.false_eq_true, if_false, led]

/-- Passing goes on to the next value of a frame, behind a comma unless it is the first. -/
theorem passAll_next (frame : Frame) {t : Octets} {between : List Octets} (starts : Starts t)
    (leads : ∀ i octets, Laid (t :: between) octets → ∃ j rest,
      passToValue frame ⟨i, octets⟩ = .ok ⟨j, rest⟩ ∧ Laid tokens rest ∧
        rest.length ≤ octets.length)
    (laid : Laid (Value.separator comma ++ t :: between) octets)
    (enough : 2 * octets.length + 1 ≤ fuel) (stack : List Frame) (i : Nat) :
    ∃ left j rest, passAll fuel false comma (frame :: stack) ⟨i, octets⟩ =
        passAll left true false (frame :: stack) ⟨j, rest⟩ ∧
      Laid tokens rest ∧ 2 * rest.length ≤ left := by
  cases comma with
  | true => exact passAll_comma frame leads laid enough stack i
  | false => exact passAll_first frame starts leads laid enough stack i

end Steps

/-! ### Keys -/

theorem passColon_laid (laid : Laid ([code ':'] :: tokens) octets) (i : Nat) :
    ∃ j rest, passColon ⟨i, octets⟩ = .ok ⟨j, rest⟩ ∧ Laid tokens rest ∧
      rest.length ≤ octets.length := by
  obtain ⟨j, rest, skipped, others, shorter⟩ := laid.skipBlanks (by decide) i
  refine ⟨j + 1, rest, ?_, others, by omega⟩
  rw [passColon]
  simp only [skipped, Cursor.peek?, List.head?_cons, beq_self_eq_true, if_true, List.nil_append,
    advance_cons]

/-- **A key is passed** with its colon. -/
theorem passKey_laid (l : Literal) (laid : Laid (l.octets :: [code ':'] :: tokens) octets)
    (i : Nat) : ∃ j rest, passKey ⟨i, octets⟩ = .ok ⟨j, rest⟩ ∧ Laid tokens rest ∧
      rest.length ≤ octets.length := by
  obtain ⟨j, rest, skipped, others, shorter⟩ := laid.skipBlanks (by decide) i
  obtain ⟨k, passed⟩ := l.skipString (j + 1) rest
  obtain ⟨m, rest', colon, others', shorter'⟩ := passColon_laid others k
  refine ⟨m, rest', ?_, others', by omega⟩
  have whole : l.inside ++ [code '\x22'] ++ rest = l.inside ++ code '\x22' :: rest := by simp
  rw [passKey, skipped]
  simp only [Cursor.peek?, List.head?_cons, beq_self_eq_true, if_true, advance_cons, whole, passed,
    colon]

/-! ### Values -/

/-- What stands behind an item of a list does not go on with it. -/
theorem follows_itemTokens (items : List Value) (tokens : List Octets) :
    Follows (Value.itemTokens true items ++ [code ']'] :: tokens) := by
  cases items with
  | nil =>
      rintro _ ⟨⟩
      exact .inr (.inl rfl)
  | cons v rest =>
      rintro _ ⟨⟩
      exact .inl rfl

theorem follows_memberTokens (members : List (Literal × Value)) (tokens : List Octets) :
    Follows (Value.memberTokens true members ++ [code '\x7d'] :: tokens) := by
  cases members with
  | nil =>
      rintro _ ⟨⟩
      exact .inr (.inr rfl)
  | cons v rest =>
      rintro _ ⟨⟩
      exact .inl rfl

mutual

/-- **A value is passed** from its first token to its last. -/
theorem passAll_value (v : Value) {fuel : Nat} {tokens : List Octets} {octets : Octets}
    (laid : Laid (v.tokens ++ tokens) octets) (follows : Follows tokens)
    (enough : 2 * octets.length ≤ fuel) (comma : Bool) (stack : List Frame) (i : Nat) :
    Reaches (passAll fuel true comma stack ⟨i, octets⟩) stack tokens := by
  match v with
  | .word w =>
      exact passAll_token (starts_word w) (fun i rest _ => passStart_word w i rest) laid follows
        enough comma stack i
  | .number n =>
      exact passAll_token (starts_number n) (fun i _ ends => passStart_number n ends i) laid follows
        enough comma stack i
  | .string l =>
      exact passAll_token (starts_string l) (fun i rest _ => passStart_string l i rest) laid follows
        enough comma stack i
  | .list items =>
      rw [Value.tokens, List.cons_append, List.append_assoc] at laid
      obtain ⟨left, j, rest, opened, others, enough⟩ :=
        passAll_open .list (fun _ _ => rfl) (by decide) laid enough comma stack i
      rw [opened]
      exact passAll_items items others enough stack j
  | .object members =>
      rw [Value.tokens, List.cons_append, List.append_assoc] at laid
      obtain ⟨left, j, rest, opened, others, enough⟩ :=
        passAll_open .object (fun _ _ => rfl) (by decide) laid enough comma stack i
      rw [opened]
      exact passAll_members members others enough stack j

/-- The items of a list are passed, and its end. -/
theorem passAll_items (items : List Value) {fuel : Nat} {comma : Bool} {tokens : List Octets}
    {octets : Octets} (laid : Laid (Value.itemTokens comma items ++ [code ']'] :: tokens) octets)
    (enough : 2 * octets.length + 1 ≤ fuel) (stack : List Frame) (i : Nat) :
    Reaches (passAll fuel false comma (.list :: stack) ⟨i, octets⟩) stack tokens := by
  match items with
  | [] => exact passAll_close .list laid enough comma stack i
  | v :: rest =>
      obtain ⟨t, tail, cons, starts⟩ := v.exists_cons_tokens
      have next : Laid (Value.separator comma ++
          t :: (tail ++ (Value.itemTokens true rest ++ [code ']'] :: tokens))) octets := by
        simpa [Value.itemTokens, cons] using laid
      obtain ⟨between, j, octets₁, reached, value, enough₁⟩ := passAll_next .list starts
        (fun i octets laid => ⟨i, octets, rfl, laid, Nat.le_refl _⟩) next enough stack i
      rw [← List.cons_append, ← cons] at value
      obtain ⟨left, k, octets₂, passed, others, enough₂⟩ :=
        passAll_value v value (follows_itemTokens rest tokens) enough₁ false (.list :: stack) j
      rw [reached, passed]
      exact passAll_items rest others enough₂ stack k

theorem passAll_members (members : List (Literal × Value)) {fuel : Nat} {comma : Bool}
    {tokens : List Octets} {octets : Octets}
    (laid : Laid (Value.memberTokens comma members ++ [code '\x7d'] :: tokens) octets)
    (enough : 2 * octets.length + 1 ≤ fuel) (stack : List Frame) (i : Nat) :
    Reaches (passAll fuel false comma (.object :: stack) ⟨i, octets⟩) stack tokens := by
  match members with
  | [] => exact passAll_close .object laid enough comma stack i
  | (l, v) :: rest =>
      have next : Laid (Value.separator comma ++ l.octets :: ([code ':'] ::
          (v.tokens ++ (Value.memberTokens true rest ++ [code '\x7d'] :: tokens)))) octets := by
        simpa [Value.memberTokens] using laid
      obtain ⟨between, j, octets₁, reached, value, enough₁⟩ := passAll_next .object
        (starts_string l) (fun i octets laid => passKey_laid l laid i) next enough stack i
      obtain ⟨left, k, octets₂, passed, others, enough₂⟩ :=
        passAll_value v value (follows_memberTokens rest tokens) enough₁ false (.object :: stack) j
      rw [reached, passed]
      exact passAll_members rest others enough₂ stack k

end

/-- **Any value** that does not count is passed. -/
theorem skipValue_laid (v : Value) (laid : Laid (v.tokens ++ tokens) octets)
    (follows : Follows tokens) (i : Nat) :
    ∃ j rest, skipValue ⟨i, octets⟩ = .ok ⟨j, rest⟩ ∧ Laid tokens rest := by
  obtain ⟨left, j, rest, passed, others, enough⟩ :=
    passAll_value v laid follows (Nat.le_add_right (2 * octets.length) 2) false [] i
  refine ⟨j, rest, ?_, others⟩
  cases left with
  | zero => omega
  | succ left =>
      rw [skipValue]
      exact passed

end FractalArchive.Json
