import FractalArchive.Http.Router

/-!
# Which service answers

A request runs one of the three services or none.  A `GET` of `/` and of `/all` and a
`POST` of `/add` are answered by their services as they are; any other request leaves what the
services of `/` and `/all` leave, or everything as it was.  A submission without a name or without a
state does not reach the store (`add_of_incomplete`).

Method and path alone decide which service runs, if any (`course`, `handle_eq`).
-/

namespace FractalArchive.Http

namespace Request

/-- A request that submits a record: a `POST` of `/add`. -/
def IsSubmission (r : Request) : Prop :=
  r.method = octetsOf "POST" ∧ r.target.path = octetsOf "/add"

instance (r : Request) : Decidable r.IsSubmission :=
  inferInstanceAs (Decidable (_ ∧ _))

/-- A request for one record: a `GET` of `/`. -/
def AsksForOne (r : Request) : Prop :=
  r.method = octetsOf "GET" ∧ r.target.path = octetsOf "/"

/-- A request for all records: a `GET` of `/all`. -/
def AsksForAll (r : Request) : Prop :=
  r.method = octetsOf "GET" ∧ r.target.path = octetsOf "/all"

end Request

namespace Site

variable (debug : Bool) {r : Request} (s : Site)

theorem handle_of_asksForOne (h : r.AsksForOne) : handle debug r s = random debug s := by
  obtain ⟨m, p⟩ := h
  unfold handle route?
  rw [m, p]
  rfl

theorem handle_of_asksForAll (h : r.AsksForAll) : handle debug r s = all debug s := by
  obtain ⟨m, p⟩ := h
  unfold handle route?
  rw [m, p]
  rfl

theorem handle_of_isSubmission (h : r.IsSubmission) : handle debug r s = add debug r s := by
  obtain ⟨m, p⟩ := h
  unfold handle route?
  rw [m, p]
  rfl

/-! ### Courses -/

/-- What is done for a request: a service answers it, or the answer is known at once. -/
inductive Course where
  /-- A service answers; it may be that only the headers of its answer are sent. -/
  | serve (route : Route) (headersOnly : Bool)
  | answer (answer : Answer)

/-- What is done for a request with this method and this path. -/
def course (method path : Octets) : Course :=
  if method = octetsOf "OPTIONS" then
    .answer (.options ((route? path).map methods) (isOriginForm path))
  else match route? path with
    | none => .answer (.notFound (isOriginForm path))
    | some .add =>
      if method = octetsOf "POST" then .serve .add false
      else .answer (.methodNotAllowed (methods .add))
    | some route =>
      if method = octetsOf "GET" then .serve route false
      else if method = octetsOf "HEAD" then .serve route true
      else .answer (.methodNotAllowed (methods route))

/-- What a service makes of a request. -/
def service (debug : Bool) (r : Request) (s : Site) : Route → Served
  | .random => random debug s
  | .all => all debug s
  | .add => add debug r s

/-- What following a course leaves. -/
def follow (debug : Bool) (r : Request) (s : Site) : Course → Served
  | .serve route false => service debug r s route
  | .serve route true =>
    let served := service debug r s route
    { served with answer := served.answer.headOnly }
  | .answer answer => ⟨answer, s, []⟩

/-- A service that may be read is asked for all of its answer or for the headers. -/
theorem follow_reading (debug : Bool) (r : Request) (s : Site) (route : Route) :
    (if r.method = octetsOf "GET" ∨ r.method = octetsOf "HEAD" then
        if r.method = octetsOf "HEAD" then
          { service debug r s route with answer := (service debug r s route).answer.headOnly }
        else service debug r s route
      else ⟨.methodNotAllowed (methods route), s, []⟩ : Served) =
      follow debug r s (if r.method = octetsOf "GET" then .serve route false
        else if r.method = octetsOf "HEAD" then .serve route true
        else .answer (.methodNotAllowed (methods route))) := by
  have distinct : octetsOf "GET" ≠ octetsOf "HEAD" := by decide
  by_cases get : r.method = octetsOf "GET"
  · simp only [get, distinct]
    rfl
  by_cases head : r.method = octetsOf "HEAD"
  · simp only [head, distinct.symm]
    rfl
  · simp only [get, head]
    rfl

/-- **The course of a request** is given by its method and its path. -/
theorem handle_eq (r : Request) :
    handle debug r s = follow debug r s (course r.method r.target.path) := by
  unfold handle course
  split
  · rfl
  simp only
  cases route? r.target.path with
  | none => rfl
  | some route =>
      cases route with
      | random => exact follow_reading debug r s .random
      | all => exact follow_reading debug r s .all
      | add =>
          simp only
          split
          · rfl
          · rfl

/-- Only a submission reaches the service that adds. -/
theorem course_eq_add {method path : Octets} {headersOnly : Bool}
    (h : course method path = .serve .add headersOnly) :
    method = octetsOf "POST" ∧ path = octetsOf "/add" ∧ headersOnly = false := by
  unfold course at h
  split at h
  · cases h
  split at h
  · cases h
  next add =>
    split at h
    next post =>
      -- The path `/add` is the only one of its service.
      have only : path = octetsOf "/add" := by
        unfold route? at add
        split at add
        · cases add
        split at add
        · cases add
        split at add
        next e => exact e
        · cases add
      cases h
      exact ⟨post, only, rfl⟩
    · cases h
  next route other _ =>
    split at h
    · cases h
      exact absurd rfl other
    split at h
    · cases h
      exact absurd rfl other
    · cases h

/-- A `GET` of any other path is answered without a look at the records. -/
theorem answer_of_other_get (m : r.method = octetsOf "GET") (one : ¬ r.AsksForOne)
    (all : ¬ r.AsksForAll) (t : Site) : (handle debug r s).answer = (handle debug r t).answer := by
  have root : r.target.path ≠ octetsOf "/" := fun p => one ⟨m, p⟩
  have list : r.target.path ≠ octetsOf "/all" := fun p => all ⟨m, p⟩
  unfold handle route?
  rw [if_neg root, if_neg list, m]
  split
  · rfl
  · split
    · rfl
    · rfl

/-- A request that submits nothing leaves what the service of `/` or of `/all` leaves, or nothing
new. -/
theorem site_handle_cases (h : ¬ r.IsSubmission) :
    (handle debug r s).site = (random debug s).site ∨
      (handle debug r s).site = (all debug s).site ∨ (handle debug r s).site = s := by
  rw [handle_eq]
  have site : ∀ route headersOnly, (follow debug r s (.serve route headersOnly)).site =
      (service debug r s route).site := by
    intro route headersOnly
    cases headersOnly with
    | false => rfl
    | true => rfl
  cases e : course r.method r.target.path with
  | answer answer => exact .inr (.inr rfl)
  | serve route headersOnly =>
      rw [site]
      cases route with
      | random => exact .inl rfl
      | all => exact .inr (.inl rfl)
      | add =>
          obtain ⟨method, path, -⟩ := course_eq_add e
          exact absurd ⟨method, path⟩ h

/-- A `GET` or `POST` is answered in full by a service, or as not found or not allowed. -/
theorem course_cases {method : Octets} (path : Octets)
    (h : method = octetsOf "GET" ∨ method = octetsOf "POST") :
    (∃ route, course method path = .serve route false) ∨
      ∃ answer, course method path = .answer answer ∧
        (answer.status = 404 ∨ answer.status = 405) := by
  have notOptions : method ≠ octetsOf "OPTIONS" := by
    rcases h with rfl | rfl
    · decide
    · decide
  have notHead : method ≠ octetsOf "HEAD" := by
    rcases h with rfl | rfl
    · decide
    · decide
  unfold course
  rw [if_neg notOptions]
  split
  · exact .inr ⟨_, rfl, .inl rfl⟩
  · split
    · exact .inl ⟨_, rfl⟩
    · exact .inr ⟨_, rfl, .inr rfl⟩
  · rw [if_neg notHead]
    split
    · exact .inl ⟨_, rfl⟩
    · exact .inr ⟨_, rfl, .inr rfl⟩

/-- A submission without a name or without a state is refused and changes nothing. -/
theorem add_of_incomplete (missing : (Form.read r).1.firstNonEmpty "name" = none ∨
      (Form.read r).1.firstNonEmpty "state" = none) :
    (add debug r s).answer = .incomplete ∧ (add debug r s).site = s := by
  unfold add
  split
  next fields events read =>
    rw [read] at missing
    simp only at missing ⊢
    split
    next name state hn hs =>
      rw [hn, hs] at missing
      rcases missing with e | e
      · cases e
      · cases e
    · exact ⟨rfl, rfl⟩

/-! ### Failures -/

theorem status_failed (debug : Bool) (cause : Failure) :
    (Answer.failed debug cause).status = 500 := by
  cases debug with
  | false => rfl
  | true => rfl

end Site

end FractalArchive.Http
