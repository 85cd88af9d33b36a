/-!
# The environment

The variables of a process, in the order in which they came.  A variable once there keeps its value
(`lookup_define_of_isSome`).
-/

namespace FractalArchive

/-- The variables of a process with their values. -/
abbrev Environment := List (String × String)

namespace Environment

/-- Gives a variable a value unless it has one. -/
def define (e : Environment) (name value : String) : Environment :=
  if (e.lookup name).isSome then e else e ++ [(name, value)]

/-- The value behind `name=` in the first entry that starts so, entries being written as
`NAME=VALUE`.  A name with an equals sign reads on within a value. -/
def behind? (e : Environment) (name : List Char) : Option (List Char) :=
  e.findSome? fun (n, v) => (name ++ ['=']).isPrefixOf? (n.toList ++ '=' :: v.toList)

/-- Adding an entry at the end changes no variable that is there. -/
theorem lookup_append_of_isSome {e : Environment} {name : String} (rest : Environment)
    (h : (e.lookup name).isSome) : (e ++ rest).lookup name = e.lookup name := by
  rw [List.lookup_append]
  cases hv : e.lookup name with
  | none => simp [hv] at h
  | some v => rfl

/-- A variable that is given a value has it behind the values that are there. -/
theorem lookup_define (e : Environment) (name value other : String) :
    (e.define name value).lookup other = (e ++ [(name, value)]).lookup other := by
  unfold define
  split
  · rename_i h
    by_cases same : other = name
    · subst same
      exact (lookup_append_of_isSome _ h).symm
    · simp [List.lookup_append, List.lookup_cons, beq_eq_false_iff_ne.2 same]
  · rfl

/-- A variable that is there keeps its value, whatever is defined. -/
theorem lookup_define_of_isSome {e : Environment} {name : String} (other value : String)
    (h : (e.lookup name).isSome) : (e.define other value).lookup name = e.lookup name := by
  rw [lookup_define, lookup_append_of_isSome _ h]

end Environment

end FractalArchive
