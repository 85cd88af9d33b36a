import FractalArchive.Form.Reading
import FractalArchive.Http.Answer
import FractalArchive.Service
import FractalArchive.Store.Basic

/-!
# The router

Three paths: `/` gives one record picked at random, `/all` gives all records, and `/add` adds the
record of a submitted form.  Paths and methods are compared exactly.  A request on the records is
one session of the store; when it fails the answer is a server error and one event reports it.
-/

namespace FractalArchive.Http

/-- What is served: a store, the disk its file is on, and the generator of the draws. -/
structure Site where
  store : Store
  disk : Disk
  generator : Generator

/-- What a request leaves. -/
structure Served where
  answer : Answer
  site : Site
  events : List Event

namespace Site

/-- The service at a path. -/
def route? (path : Octets) : Option Route :=
  if path = octetsOf "/" then some .random
  else if path = octetsOf "/all" then some .all
  else if path = octetsOf "/add" then some .add
  else none

/-- The methods of a service. -/
def methods : Route → String
  | .random => "GET,HEAD"
  | .all => "GET,HEAD"
  | .add => "POST"

/-- Runs a piece of work in a session of the store.  The answer is made from the value; any other
end is a failure. -/
def serve {α : Type} (debug : Bool) (before : List Event) (work : Work RepositoryError α)
    (finish : α → Site → Answer × Site × List Event) (s : Site) : Served :=
  let session := s.store.withSession RepositoryError.store work s.disk
  let site : Site := { s with store := session.store, disk := session.disk }
  let fail (cause : Failure) : Served :=
    ⟨.failed debug cause, site, before ++ session.events ++ [.requestFailed cause]⟩
  match session.outcome with
  | .returned (.ok a) =>
    match finish a site with
    | (answer, site, after) => ⟨answer, site, before ++ session.events ++ after⟩
  | .returned (.error e) => fail (.store e)
  | .panicked message => fail (.worker 0 (.panicked message))

/-- Gives one record. -/
def random (debug : Bool) (s : Site) : Served :=
  serve debug [.requested .random] (Service.pick s.generator)
    (fun (picked, generator) site =>
      let site := { site with generator }
      match picked with
      | some record => (.json (Json.writeRecord record), site, [])
      | none => (.failed debug .emptyStore, site, [.requestFailed .emptyStore])) s

/-- Gives all records. -/
def all (debug : Bool) (s : Site) : Served :=
  serve debug [.requested .all] Service.list
    (fun records site => (.json (Json.writeRecords records), site, [])) s

/-- Adds the record of a submitted form. -/
def add (debug : Bool) (r : Request) (s : Site) : Served :=
  match Form.read r with
  | (fields, read) =>
    let name := fields.firstNonEmpty "name"
    let state := fields.firstNonEmpty "state"
    let before := read ++ [.addRequested name.isSome state.isSome]
    match name, state with
    | some name, some state =>
      serve debug before (Service.add ⟨name, state⟩) (fun _ site => (.done, site, [])) s
    | _, _ => ⟨.incomplete, s, before⟩

/-- Whether a path starts with a slash. -/
def isOriginForm (path : Octets) : Bool :=
  path.head? == some 0x2F

/-- Answers a request. -/
def handle (debug : Bool) (r : Request) (s : Site) : Served :=
  let route := route? r.target.path
  if r.method = octetsOf "OPTIONS" then
    ⟨.options (route.map methods) (isOriginForm r.target.path), s, []⟩
  else
    let get := r.method = octetsOf "GET"
    let head := r.method = octetsOf "HEAD"
    let beheaded (served : Served) : Served :=
      if head then { served with answer := served.answer.headOnly } else served
    match route with
    | none => ⟨.notFound (isOriginForm r.target.path), s, []⟩
    | some .random =>
      if get ∨ head then beheaded (random debug s)
      else ⟨.methodNotAllowed (methods .random), s, []⟩
    | some .all =>
      if get ∨ head then beheaded (all debug s)
      else ⟨.methodNotAllowed (methods .all), s, []⟩
    | some .add =>
      if r.method = octetsOf "POST" then add debug r s
      else ⟨.methodNotAllowed (methods .add), s, []⟩

/-- Answers requests one after another. -/
def handleAll (debug : Bool) : List Request → Site → List Answer × Site × List Event
  | [], s => ([], s, [])
  | r :: rest, s =>
    let served := handle debug r s
    let (answers, site, events) := handleAll debug rest served.site
    (served.answer :: answers, site, served.events ++ events)

end Site

end FractalArchive.Http
