import FractalArchive.Http.Failure
import FractalArchive.Json.Writer

/-!
# Answers

The answers to requests: a status, headers and a body.  Every answer allows any origin; what else
stands in the headers depends on the kind of the answer.
-/

namespace FractalArchive.Http

/-- An answer. -/
structure Answer where
  status : Nat
  /-- Names in small letters, with their values. -/
  headers : List (String × String)
  body : String
  deriving DecidableEq, Repr

namespace Answer

/-- The headers of every answer. -/
def common : List (String × String) :=
  [("access-control-allow-origin", "*"),
   ("vary", "origin, access-control-request-method, access-control-request-headers")]

/-- The header that says how long a body is. -/
def lengthOf (body : String) : String × String :=
  ("content-length", toString body.utf8ByteSize)

/-- An answer with a body. -/
def withBody (status : Nat) (type body : String) : Answer :=
  ⟨status, common ++ [("content-type", type), lengthOf body], body⟩

/-- An answer without a body. -/
def empty (status : Nat) : Answer :=
  ⟨status, common ++ [lengthOf ""], ""⟩

/-- The answer that all is well. -/
def done : Answer := withBody 200 "text/plain; charset=utf-8" "ok"

/-- An answer with a JSON text. -/
def json (text : List Char) : Answer :=
  withBody 200 "application/json" (String.ofList text)

/-- The answer to a submission without a name or a state. -/
def incomplete : Answer := empty 418

/-- The answer to a request that fails; the cause is shown in debug mode only. -/
def failed (debug : Bool) (cause : Failure) : Answer :=
  if debug then withBody 500 "text/plain; charset=utf-8" cause.message else empty 500

/-- The answer to a method that a path does not know. -/
def methodNotAllowed (allow : String) : Answer :=
  ⟨405, common ++ [("allow", allow), lengthOf ""], ""⟩

/-- The answer to an unknown path. -/
def notFound (originForm : Bool) : Answer :=
  ⟨404, if originForm then common else common ++ [lengthOf ""], ""⟩

/-- The answer to a question for options; a known path comes with its methods. -/
def options (allow : Option String) (originForm : Bool) : Answer :=
  let any := [("access-control-allow-methods", "*"), ("access-control-allow-headers", "*")]
  let more := match allow with
    | some methods => [("allow", methods), lengthOf ""]
    | none => if originForm then [] else [lengthOf ""]
  ⟨200, common ++ any ++ more, ""⟩

/-- An answer as it is sent for a request that asks for the headers only. -/
def headOnly (a : Answer) : Answer :=
  { a with body := "" }

end Answer

end FractalArchive.Http
