/-!
# Similar words

How much two words are alike, by the measure of Jaro: the share of characters that the words have
in common at near places, lessened by those of them that stand in another order.
-/

namespace FractalArchive.Similarity

/-- Takes the first free place of a character among the places from `low` to below `high`; `place`
is where the list starts, and taken places are marked. -/
def claim (c : Char) (low high : Nat) (place : Nat) :
    List (Char × Bool) → Option (List (Char × Bool))
  | [] => none
  | (d, taken) :: rest =>
    if high ≤ place then none
    else if low ≤ place ∧ c = d ∧ ¬ taken then some ((d, true) :: rest)
    else (claim c low high (place + 1) rest).map ((d, taken) :: ·)

/-- The characters of a word that have a partner at most `reach` places away in another word, and
that word with the partners marked. -/
def matched (reach : Nat) (place : Nat) (other : List (Char × Bool)) :
    List Char → List Char × List (Char × Bool)
  | [] => ([], other)
  | c :: rest =>
    match claim c (place - reach) (place + reach + 1) 0 other with
    | some other =>
      let (found, other) := matched reach (place + 1) other rest
      (c :: found, other)
    | none => matched reach (place + 1) other rest

/-- How much two words are alike, from 0 to 1. -/
def jaro (a b : List Char) : Float :=
  if a.isEmpty && b.isEmpty then 1
  else
    let reach := max a.length b.length / 2 - 1
    let (found, marked) := matched reach 0 (b.map fun c => (c, false)) a
    let partners := (marked.filter Prod.snd).map Prod.fst
    let moved := (found.zip partners).countP (fun (c, d) => c != d) / 2
    let share (n of : Nat) : Float := n.toFloat / of.toFloat
    if found.isEmpty then 0
    else (share found.length a.length + share found.length b.length +
      share (found.length - moved) found.length) / 3

/-- How much words must be alike for one to be proposed in place of the other. -/
def threshold : Float := 0.7

/-- The word most alike to a given one, the last of several, if any is alike enough. -/
def closest? (given : String) (words : List String) : Option String :=
  let score (w : String) := jaro given.toList w.toList
  words.foldl (fun best w =>
    if threshold < score w then
      match best with
      | some b => if score w < score b then best else some w
      | none => some w
    else best) none

end FractalArchive.Similarity
