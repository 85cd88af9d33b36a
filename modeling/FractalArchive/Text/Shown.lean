/-!
# Shown text

What of a text shows when it is written without control sequences for terminals.  A sequence starts
with the escape character and takes everything up to the character that ends it.  Other control
characters do not show, the white space among them excepted, which also ends a sequence.
-/

namespace FractalArchive.Text.Shown

/-- Where a character stands. -/
inductive Place where
  /-- Outside sequences. -/
  | outside
  /-- Right after the escape character. -/
  | escape
  /-- After an escape character and some intermediate characters. -/
  | intermediate
  /-- Within the parameters of a sequence. -/
  | parameters
  /-- Within a command to the system, which the bell ends. -/
  | command
  /-- Within a string, which only another sequence or a cancellation ends. -/
  | data
  deriving DecidableEq, Repr

/-- Whether a character is the white space of ASCII. -/
def isWhite (c : Char) : Bool :=
  c == ' ' || c == '\t' || c == '\n' || c == '\x0c' || c == '\r'

/-- Whether a character shows outside sequences. -/
def shows (c : Char) : Bool :=
  isWhite c || (0x20 ≤ c.toNat && c != '\x7f')

/-- The place after the character that follows an escape character. -/
def afterEscape (c : Char) : Place :=
  if c = '[' then .parameters
  else if c = ']' then .command
  else if c = 'P' ∨ c = 'X' ∨ c = '^' ∨ c = '_' then .data
  else if c.toNat ≤ 0x2F then .intermediate
  else .outside

/-- The place after a character, and whether the character shows. -/
def step (c : Char) (p : Place) : Place × Bool :=
  if c = '\x1b' then (.escape, false)
  else if c = '\x18' ∨ c = '\x1a' then (.outside, false)
  else match p with
    | .outside => (.outside, shows c)
    | .command => (if c = '\x07' then .outside else .command, false)
    | .data => (.data, false)
    | _ =>
      if 0x80 ≤ c.toNat ∨ (isWhite c ∧ c ≠ ' ') then (.outside, true)
      else if c.toNat < 0x20 ∨ c = '\x7f' then (p, false)
      else match p with
        | .escape => (afterEscape c, false)
        | .intermediate => (if c.toNat ≤ 0x2F then .intermediate else .outside, false)
        | _ => (if c.toNat < 0x40 then .parameters else .outside, false)

/-- The characters that show, from a place on. -/
def shownFrom (p : Place) : List Char → List Char
  | [] => []
  | c :: rest =>
    match step c p with
    | (q, true) => c :: shownFrom q rest
    | (q, false) => shownFrom q rest

/-- A text without what does not show. -/
def shown (s : String) : String :=
  String.ofList (shownFrom .outside s.toList)

end FractalArchive.Text.Shown
