import FractalArchive.Proofs.Http.Routes

/-!
# Requests that fail

A `GET` or `POST` that is answered 500 is reported by one error event with the cause, and no other
is; in debug mode the body is the cause, and otherwise all such answers are the same
(`failures_opaque`).  The statement is for any site, so for whatever keeps the store from working.

* `Event.reportsFailure_iff`: the label of a report is that of one kind of event;
* `withSession_silent`: a session reports what its work reports, and no failed request;
* `serve_reported`, `service_reported`: a service fails if and only if it reports a failure, and
  then answers with the cause that it reports.
-/

namespace FractalArchive

/-! ### Reports of failures -/

namespace Event

/-- What the report of a failed request starts with; the cause follows. -/
def failureLabel : String := "event=http_request module=http status=error error="

/-- An event reports a failed request: it is an error, and its text starts with the label. -/
def ReportsFailure (e : Event) : Prop :=
  e.level = .error ∧ ∃ elapsed, failureLabel.toList <+: (e.message elapsed).toList

/-- The failure that an event reports, if it is of the kind that does. -/
def failure? : Event → Option Failure
  | .requestFailed cause => some cause
  | _ => none

/-- The label is told from other texts by the first letter after `event=`. -/
theorem not_labelled {start : String} (rest : String) (letters : start.toList.length = 7)
    (other : start ≠ "event=h") : ¬ failureLabel.toList <+: (start ++ rest).toList := by
  rintro ⟨more, e⟩
  have label : failureLabel = "event=h" ++ "ttp_request module=http status=error error=" := rfl
  rewrite [label, String.toList_append, String.toList_append, List.append_assoc] at e
  exact other (String.toList_inj.mp (List.append_inj_left e letters.symm).symm)

/-- **Only a failed request is reported with the label.** -/
theorem reportsFailure_iff {e : Event} : e.ReportsFailure ↔ e.failure?.isSome := by
  have opening : "event=db_open module=db status=error mode=" =
      "event=d" ++ "b_open module=db status=error mode=" := rfl
  have session : "event=db_session module=db status=error error_code=db_open_failed error=" =
      "event=d" ++ "b_session module=db status=error error_code=db_open_failed error=" := rfl
  have closing : "event=store_close module=db status=error location=" =
      "event=s" ++ "tore_close module=db status=error location=" := rfl
  have panic : "event=panic_captured module=core status=error location=" =
      "event=p" ++ "anic_captured module=core status=error location=" := rfl
  constructor
  · rintro ⟨level, elapsed, label⟩
    unfold message at label
    cases e with
    | requestFailed cause => rfl
    | openFailed mode cause | bootstrapFailed mode cause =>
        simp only [opening, String.append_assoc] at label
        exact absurd label (not_labelled _ (by decide) (by decide))
    | sessionFailed cause =>
        simp only [session, String.append_assoc] at label
        exact absurd label (not_labelled _ (by decide) (by decide))
    | storeNotClosed location cause =>
        simp only [closing, String.append_assoc] at label
        exact absurd label (not_labelled _ (by decide) (by decide))
    | panicCaptured place payload =>
        simp only [panic, String.append_assoc] at label
        exact absurd label (not_labelled _ (by decide) (by decide))
    | _ => cases level
  · intro some
    cases e with
    | requestFailed cause =>
        refine ⟨rfl, 0, ?_⟩
        show failureLabel.toList <+: (failureLabel ++ cause.message).toList
        rw [String.toList_append]
        exact List.prefix_append _ _
    | _ => cases some

/-- No event reports a failed request. -/
def Silent (events : List Event) : Prop :=
  ∀ e ∈ events, ¬ e.ReportsFailure

variable {events more : List Event}

theorem silent_nil : Silent [] :=
  fun _ h => absurd h List.not_mem_nil

theorem Silent.append (h : Silent events) (h' : Silent more) : Silent (events ++ more) :=
  fun e he => (List.mem_append.mp he).elim (h e) (h' e)

theorem silent_singleton {e : Event} (other : e.failure? = none) : Silent [e] :=
  List.forall_mem_singleton.mpr fun report => by
    have some := reportsFailure_iff.mp report
    rw [other] at some
    cases some

end Event

open Event (Silent silent_nil silent_singleton)

/-! ### Sessions -/

section Sessions

variable {ε α : Type} {work : Work ε α}

/-- The work reports no failed request. -/
def Work.Silent (work : Work ε α) : Prop :=
  ∀ c, Event.Silent (work c).events

theorem Service.silent_add (draft : Draft) : Work.Silent (add draft) := by
  intro c
  unfold add
  split
  · exact silent_singleton rfl
  · exact silent_nil

theorem Service.silent_list : Work.Silent list := by
  intro c
  unfold list
  split
  · exact silent_singleton rfl
  · exact silent_nil

theorem Service.silent_pick (g : Generator) : Work.Silent (pick g) := by
  intro c
  unfold pick
  split
  · exact silent_nil
  · exact silent_singleton rfl
  · simp only
    split
    · exact silent_singleton rfl
    · exact silent_nil

/-- A session reports no failed request unless its work does. -/
theorem Store.withSession_silent (h : work.Silent) (lift : StoreError → ε) (s : Store)
    (disk : Disk) : Silent (s.withSession lift work disk).events := by
  unfold withSession
  split
  · split
    · exact silent_singleton rfl
    · exact (silent_singleton rfl).append (h _)
  · split
    · exact silent_nil
    · exact h _

end Sessions

namespace Http

namespace Site

/-! ### Services -/

/-- An answer and the events with it: the answer is no failure and none is reported, or the last
event reports the failure that is answered. -/
inductive Reported (debug : Bool) : Answer → List Event → Prop where
  | done {answer : Answer} {events : List Event} (status : answer.status ≠ 500)
      (silent : Silent events) : Reported debug answer events
  | failed (cause : Failure) {before : List Event} (silent : Silent before) :
      Reported debug (.failed debug cause) (before ++ [.requestFailed cause])

variable {debug : Bool} {before events : List Event} {answer : Answer} {r : Request} {s : Site}

theorem Reported.after (h : Reported debug answer events) (silent : Silent before) :
    Reported debug answer (before ++ events) := by
  cases h with
  | done status quiet => exact .done status (silent.append quiet)
  | failed cause quiet =>
      rw [← List.append_assoc]
      exact .failed cause (silent.append quiet)

/-- **A service reports the failure that it answers**, if what it makes of the value of its session
does, and no other. -/
theorem serve_reported {α : Type} (quiet : Silent before) {work : Work RepositoryError α}
    (silent : work.Silent) {finish : α → Site → Answer × Site × List Event}
    (finishes : ∀ a site, Reported debug (finish a site).1 (finish a site).2.2) (s : Site) :
    Reported debug (serve debug before work finish s).answer
      (serve debug before work finish s).events := by
  have session := quiet.append
    (Store.withSession_silent silent RepositoryError.store s.store s.disk)
  unfold serve
  simp only
  split
  · exact (finishes _ _).after session
  · exact .failed _ session
  · exact .failed _ session

/-- **Every service** reports the failure that it answers, and no other. -/
theorem service_reported (debug : Bool) (r : Request) (s : Site) (route : Route) :
    Reported debug (service debug r s route).answer (service debug r s route).events := by
  cases route with
  | random =>
      refine serve_reported (silent_singleton rfl) (Service.silent_pick _) ?_ s
      rintro ⟨picked, g⟩ site
      cases picked with
      | some record => exact .done (show 200 ≠ 500 by decide) silent_nil
      | none => exact .failed .emptyStore silent_nil
  | all =>
      exact serve_reported (silent_singleton rfl) Service.silent_list
        (fun _ _ => .done (show 200 ≠ 500 by decide) silent_nil) s
  | add =>
      have read : Silent (Form.read r).2 := by
        unfold Form.read
        split
        · exact silent_nil
        · exact silent_singleton rfl
      show Reported debug (add debug r s).answer (add debug r s).events
      unfold add
      simp only
      split
      · exact serve_reported (read.append (silent_singleton rfl))
          (Service.silent_add _) (fun _ _ => .done (show 200 ≠ 500 by decide) silent_nil) s
      · exact .done (show 418 ≠ 500 by decide) (read.append (silent_singleton rfl))

/-- **A `GET` or `POST`** is reported like the service that answers it. -/
theorem handle_reported (debug : Bool) (s : Site)
    (method : r.method = octetsOf "GET" ∨ r.method = octetsOf "POST") :
    Reported debug (handle debug r s).answer (handle debug r s).events := by
  rw [handle_eq]
  rcases course_cases r.target.path method with ⟨route, e⟩ | ⟨answer, e, status⟩
  · rw [e]
    exact service_reported debug r s route
  · rw [e]
    exact .done (show answer.status ≠ 500 by omega) silent_nil

/-- **Failures are opaque.**  A `GET` or `POST` that is not answered 500 reports no failure.  One
that is reports one, last, and its text is the label and the message of the cause; the body is this
message in debug mode.  Otherwise the body is empty, and all such answers are the same. -/
theorem failures_opaque (debug : Bool) (r : Request) (s : Site)
    (method : r.method = octetsOf "GET" ∨ r.method = octetsOf "POST") :
    let served := handle debug r s
    (served.answer.status ≠ 500 → ∀ e ∈ served.events, ¬ e.ReportsFailure) ∧
      (served.answer.status = 500 → ∃ cause : Failure, ∃ before report,
        served.events = before ++ [report] ∧ (∀ e ∈ before, ¬ e.ReportsFailure) ∧
        report.level = .error ∧
        (∀ elapsed, report.message elapsed = Event.failureLabel ++ cause.message) ∧
        served.answer.body = if debug then cause.message else "") ∧
      (served.answer.status = 500 → debug = false → served.answer = .empty 500) := by
  intro served
  have reported : Reported debug served.answer served.events := handle_reported debug s method
  generalize served.answer = answer at reported ⊢
  generalize served.events = events at reported ⊢
  cases reported with
  | done status silent =>
      exact ⟨fun _ => silent, fun failed => absurd failed status,
        fun failed => absurd failed status⟩
  | failed cause silent =>
      refine ⟨fun other => absurd (status_failed debug cause) other,
        fun _ => ⟨cause, _, _, rfl, silent, rfl, fun _ => rfl, ?_⟩, fun _ off => ?_⟩
      · cases debug with
        | false => rfl
        | true => rfl
      · rw [off]
        rfl

/-- A request for all records. -/
def listingSample : Request :=
  ⟨octetsOf "GET", ⟨octetsOf "/all", none⟩, [], []⟩

/-- A site whose store in memory is poisoned. -/
def poisonedSite : Site :=
  ⟨⟨.memory, .memory (.database {}) true⟩, {}, .cycle []⟩

/-- A site whose file has become a directory. -/
def unopenedSite : Site :=
  ⟨⟨.file "a.db", .file "a.db"⟩, ⟨[], [(["a.db"], .directory)]⟩, .cycle []⟩

theorem failures_opaque_unopenedSite :
    (∃ before report, (handle true listingSample unopenedSite).events = before ++ [report] ∧
        (∀ e ∈ before, ¬ e.ReportsFailure) ∧ report.level = .error ∧
        report.message 0 = Event.failureLabel ++
          "store error: unable to open database file: a.db") ∧
      (handle false listingSample unopenedSite).answer =
        (handle false listingSample poisonedSite).answer := by
  obtain ⟨-, reported, -⟩ := failures_opaque true listingSample unopenedSite (.inl rfl)
  obtain ⟨cause, before, report, events, silent, level, text, body⟩ := reported rfl
  have shown : "store error: unable to open database file: a.db" = cause.message := body
  obtain ⟨-, -, unopened⟩ := failures_opaque false listingSample unopenedSite (.inl rfl)
  obtain ⟨-, -, poisoned⟩ := failures_opaque false listingSample poisonedSite (.inl rfl)
  refine ⟨⟨before, report, events, silent, level, ?_⟩, ?_⟩
  · rw [text, shown]
  · rw [unopened rfl rfl, poisoned rfl rfl]

end Site

end Http

end FractalArchive
