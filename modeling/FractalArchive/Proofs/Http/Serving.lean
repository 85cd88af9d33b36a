import FractalArchive.Proofs.Http.Routes
import FractalArchive.Proofs.Service.Operations
import FractalArchive.Proofs.Store.Holding

/-!
# Requests on a store that holds a database

What each service answers, and what it leaves, when the store holds a database.

* `serve_holds`: a service runs its work on the database, and the store then holds what the work
  leaves; the generator of the site is not touched;
* `all_holds`, `random_holds`: the answers to reading requests, from the listing and the generator;
* `add_holds`: the answer to a complete submission, from the work of adding its draft;
* `submission_cases`, `holds_of_not_accepts`: an accepted submission inserts its draft, and any
  other request leaves the database as it is.

So the answer to a `GET` depends on the database and the generator alone (`answer_eq_of_holds`), and
what requests make of the database does not depend on the generator (`after_holds`).
-/

namespace FractalArchive.Http.Site

variable {s t : Site} {d d' : Database} {r : Request}

/-- The sessions of the site work on this database. -/
def Holds (s : Site) (d : Database) : Prop :=
  s.store.Holds s.disk d

/-- The site after requests. -/
def after (debug : Bool) (requests : List Request) (s : Site) : Site :=
  (handleAll debug requests s).2.1

/-! ### Services -/

/-- What a service makes of the result of its work, after these events. -/
def settle {α : Type} (debug : Bool) (finish : α → Site → Answer × Site × List Event) (site : Site)
    (reported : List Event) : Except RepositoryError α → Served
  | .ok a =>
    let (answer, site, more) := finish a site
    ⟨answer, site, reported ++ more⟩
  | .error e => ⟨.failed debug (.store e), site, reported ++ [.requestFailed (.store e)]⟩

/-- **A service runs its work on the database** that the store holds. -/
theorem serve_holds {α : Type} (h : s.Holds d) (debug : Bool) (before : List Event)
    {work : Work RepositoryError α} {result : Except RepositoryError α} {events : List Event}
    (works : work ⟨.database d, false⟩ = ⟨.returned result, ⟨.database d', false⟩, events⟩) :
    ∃ site, Site.Holds site d' ∧ site.generator = s.generator ∧
      site.store.mode = s.store.mode ∧
      ∀ finish, serve debug before work finish s = settle debug finish site
        (before ++ (Store.sessionEvents s.store.mode ++ events)) result := by
  obtain ⟨store, disk, session, kind, holds⟩ := h.session RepositoryError.store works
  refine ⟨⟨store, disk, s.generator⟩, holds, rfl, kind, fun finish => ?_⟩
  unfold serve
  simp only [session]
  cases result with
  | ok a => rfl
  | error e => rfl

/-- The answer with all records, from the result of listing them. -/
def listAnswer (debug : Bool) : Except RepositoryError (List Record) → Answer
  | .ok records => .json (Json.writeRecords records)
  | .error e => .failed debug (.store e)

/-- The answer with one record, picked from the result of listing them. -/
def pickAnswer (debug : Bool) (g : Generator) : Except RepositoryError (List Record) → Answer
  | .ok records =>
    match Service.pickFrom g records with
    | (some record, _) => .json (Json.writeRecord record)
    | (none, _) => .failed debug .emptyStore
  | .error e => .failed debug (.store e)

/-- The answer to a complete submission, from the result of adding its draft. -/
def submissionAnswer (debug : Bool) : Except RepositoryError Int → Answer
  | .ok _ => .done
  | .error e => .failed debug (.store e)

/-- **Reading all records** answers with the listing. -/
theorem all_holds (h : s.Holds d) (debug : Bool) :
    (all debug s).site.Holds d ∧
      (all debug s).answer = listAnswer debug (Repository.list ⟨.database d, false⟩) := by
  obtain ⟨events, works⟩ := Service.list_returned ⟨.database d, false⟩
  obtain ⟨site, holds, -, -, served⟩ := serve_holds h debug [.requested .all] works
  rw [all, served]
  cases Repository.list ⟨.database d, false⟩ with
  | ok records => exact ⟨holds, rfl⟩
  | error e => exact ⟨holds, rfl⟩

/-- **Reading one record** answers with a pick from the listing. -/
theorem random_holds (h : s.Holds d) (debug : Bool) :
    (random debug s).site.Holds d ∧ (random debug s).answer =
      pickAnswer debug s.generator (Repository.list ⟨.database d, false⟩) := by
  obtain ⟨events, works⟩ := Service.pick_returned s.generator ⟨.database d, false⟩
  obtain ⟨site, holds, -, -, served⟩ := serve_holds h debug [.requested .random] works
  rw [random, served]
  cases Repository.list ⟨.database d, false⟩ with
  | error e => exact ⟨holds, rfl⟩
  | ok records =>
      simp only [Except.map, pickAnswer]
      cases Service.pickFrom s.generator records with
      | mk picked g =>
          cases picked with
          | none => exact ⟨holds, rfl⟩
          | some record => exact ⟨holds, rfl⟩

/-- **A complete submission** adds its draft. -/
theorem add_holds (h : s.Holds d) (debug : Bool) {name state : String}
    (hn : (Form.read r).1.firstNonEmpty "name" = some name)
    (hs : (Form.read r).1.firstNonEmpty "state" = some state)
    {result : Except RepositoryError Int} {events : List Event}
    (works : Service.add ⟨name, state⟩ ⟨.database d, false⟩ =
      ⟨.returned result, ⟨.database d', false⟩, events⟩) :
    (add debug r s).site.Holds d' ∧ (add debug r s).answer = submissionAnswer debug result := by
  obtain ⟨site, holds, -, -, served⟩ := serve_holds h debug
    ((Form.read r).2 ++ [.addRequested true true]) works
  have complete : add debug r s = serve debug ((Form.read r).2 ++ [.addRequested true true])
      (Service.add ⟨name, state⟩) (fun _ site => (.done, site, [])) s := by
    unfold add
    simp only [hn, hs]
    rfl
  rw [complete, served]
  cases result with
  | ok id => exact ⟨holds, rfl⟩
  | error e => exact ⟨holds, rfl⟩

/-! ### Requests -/

/-- A submission that was accepted: it is answered 200. -/
def Accepts (debug : Bool) (r : Request) (s : Site) : Prop :=
  r.IsSubmission ∧ (handle debug r s).answer.status = 200

/-- What a submission comes to: it is refused and nothing changes, or its draft is inserted. -/
theorem submission_cases (h : s.Holds d) (debug : Bool) (submission : r.IsSubmission) :
    ((handle debug r s).answer.status ≠ 200 ∧ (handle debug r s).site.Holds d) ∨
      ∃ name state id d', (Form.read r).1.firstNonEmpty "name" = some name ∧
        (Form.read r).1.firstNonEmpty "state" = some state ∧
        d.catalog.insert .null (.text name) (.text state) = .ok (id, d'.catalog) ∧
        (handle debug r s).answer = .done ∧ (handle debug r s).site.Holds d' := by
  rw [handle_of_isSubmission debug s submission]
  have incomplete : (Form.read r).1.firstNonEmpty "name" = none ∨
      (Form.read r).1.firstNonEmpty "state" = none →
      (add debug r s).answer.status ≠ 200 ∧ (add debug r s).site.Holds d := by
    intro missing
    obtain ⟨answer, site⟩ := add_of_incomplete debug s missing
    rw [answer, site]
    exact ⟨by decide, h⟩
  cases hn : (Form.read r).1.firstNonEmpty "name" with
  | none => exact .inl (incomplete (.inl hn))
  | some name =>
      cases hs : (Form.read r).1.firstNonEmpty "state" with
      | none => exact .inl (incomplete (.inr hs))
      | some state =>
          obtain ⟨result, d', events, works, -, effect⟩ := Service.add_works ⟨name, state⟩ d
          obtain ⟨holds, answer⟩ := add_holds h debug hn hs works
          -- A draft that is not inserted is answered with a failure, so 200 means that it is.
          rcases effect with ⟨⟨e, rfl⟩, rfl⟩ | ⟨id, rfl, inserted⟩
          · refine .inl ⟨?_, holds⟩
            rw [answer, submissionAnswer, status_failed]
            decide
          · exact .inr ⟨name, state, id, d', rfl, rfl, inserted, answer, holds⟩

/-- **A request that is not an accepted submission** leaves the database as it is. -/
theorem holds_of_not_accepts (h : s.Holds d) {debug : Bool} (refused : ¬ Accepts debug r s) :
    (handle debug r s).site.Holds d := by
  by_cases submission : r.IsSubmission
  · rcases submission_cases h debug submission with ⟨-, holds⟩ | ⟨_, _, _, _, -, -, -, done, -⟩
    · exact holds
    · exact absurd ⟨submission, by rw [done]; rfl⟩ refused
  · rcases site_handle_cases debug s submission with e | e | e
    · rw [e]
      exact (random_holds h debug).1
    · rw [e]
      exact (all_holds h debug).1
    · rw [e]
      exact h

/-- What a request makes of a database does not depend on the site. -/
theorem handle_holds (r : Request) (d : Database) :
    ∃ d', ∀ debug s, Site.Holds s d → (handle debug r s).site.Holds d' := by
  by_cases submission : r.IsSubmission
  · -- The form alone decides which draft is added, and the database what becomes of it.
    cases hn : (Form.read r).1.firstNonEmpty "name" with
    | none =>
        refine ⟨d, fun debug s h => ?_⟩
        rw [handle_of_isSubmission debug s submission, (add_of_incomplete debug s (.inl hn)).2]
        exact h
    | some name =>
        cases hs : (Form.read r).1.firstNonEmpty "state" with
        | none =>
            refine ⟨d, fun debug s h => ?_⟩
            rw [handle_of_isSubmission debug s submission, (add_of_incomplete debug s (.inr hs)).2]
            exact h
        | some state =>
            obtain ⟨result, d', events, works, -⟩ := Service.add_works ⟨name, state⟩ d
            refine ⟨d', fun debug s h => ?_⟩
            rw [handle_of_isSubmission debug s submission]
            exact (add_holds h debug hn hs works).1
  · exact ⟨d, fun debug s h => holds_of_not_accepts h fun accepted => submission accepted.1⟩

/-- What requests make of a database does not depend on the site. -/
theorem after_holds (requests : List Request) (d : Database) :
    ∃ d', ∀ debug s, Site.Holds s d → (after debug requests s).Holds d' := by
  induction requests generalizing d with
  | nil => exact ⟨d, fun _ _ h => h⟩
  | cons r rest ih =>
      obtain ⟨d₁, first⟩ := handle_holds r d
      obtain ⟨d₂, more⟩ := ih d₁
      exact ⟨d₂, fun debug s h => more debug _ (first debug s h)⟩

/-- **What a `GET` sees** is the database and the generator. -/
theorem answer_eq_of_holds (h : s.Holds d) (h' : t.Holds d) (same : s.generator = t.generator)
    (debug : Bool) (get : r.method = octetsOf "GET") :
    (handle debug r s).answer = (handle debug r t).answer := by
  by_cases one : r.AsksForOne
  · rw [handle_of_asksForOne debug s one, handle_of_asksForOne debug t one,
      (random_holds h debug).2, (random_holds h' debug).2, same]
  by_cases list : r.AsksForAll
  · rw [handle_of_asksForAll debug s list, handle_of_asksForAll debug t list,
      (all_holds h debug).2, (all_holds h' debug).2]
  · exact answer_of_other_get debug s get one list t

end FractalArchive.Http.Site
