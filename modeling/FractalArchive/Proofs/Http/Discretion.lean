import FractalArchive.Proofs.Http.Serving
import FractalArchive.Proofs.Service.Archiving
import Mathlib.Data.List.Forall2

/-!
# What is reported of submitted texts

Of the texts that are submitted only the lengths are reported.  Take two runs from new stores of the
same kind, whose requests differ in the texts of their forms only, and in these not by the lengths.
They report the same, give every request the same status, and answer every submission alike
(`discretion`).

The invariant of the two runs is that both databases archive records, and the ids of the ones are
those of the others (`Site.Alike`).  A service preserves it and reports the same at both sites,
since what it reports is made of ids, counts and lengths: `all_alike`, `random_alike` and
`add_alike`.
-/

namespace FractalArchive

/-! ### Texts of the same length -/

/-- Fields with the same keys and with values of the same lengths. -/
def Fields.Alike (fields others : Fields) : Prop :=
  List.Forall₂ (fun f g => f.1 = g.1 ∧ f.2.length = g.2.length) fields others

/-- Drafts with texts of the same lengths. -/
structure Draft.Alike (draft other : Draft) : Prop where
  name : draft.name.length = other.name.length
  state : draft.state.length = other.state.length

namespace Fields.Alike

variable {fields others : Fields}

/-- The first values under a key have the same length. -/
theorem first (h : fields.Alike others) (key : String) :
    (fields.first key).map String.length = (others.first key).map String.length := by
  induction h with
  | nil => rfl
  | @cons f g fields others same rest ih =>
      obtain ⟨k, v⟩ := f
      obtain ⟨k', w⟩ := g
      obtain ⟨rfl, length⟩ : k = k' ∧ v.length = w.length := same
      by_cases here : k = key
      · rw [here, first_cons_self, first_cons_self]
        exact congrArg some length
      · rw [first_cons_of_ne here, first_cons_of_ne here, ih]

/-- Under a key, both give a value and of the same length, or neither does. -/
theorem firstNonEmpty (h : fields.Alike others) (key : String) :
    (fields.firstNonEmpty key = none ∧ others.firstNonEmpty key = none) ∨
      ∃ v w, fields.firstNonEmpty key = some v ∧ others.firstNonEmpty key = some w ∧
        v.length = w.length := by
  have lengths := h.first key
  unfold Fields.firstNonEmpty
  cases e : fields.first key with
  | none =>
      rw [e] at lengths
      rw [Option.map_eq_none_iff.mp lengths.symm]
      exact .inl ⟨rfl, rfl⟩
  | some v =>
      rw [e] at lengths
      obtain ⟨w, e', length⟩ := Option.map_eq_some_iff.mp lengths.symm
      rw [e']
      by_cases empty : v = ""
      · have empty' : w = "" := String.length_eq_zero_iff.mp (by rw [length, empty]; rfl)
        rw [empty, empty']
        exact .inl ⟨rfl, rfl⟩
      · have some' : w ≠ "" := fun empty' =>
          empty (String.length_eq_zero_iff.mp (by rw [← length, empty']; rfl))
        exact .inr ⟨v, w, Option.filter_some_pos (bne_iff_ne.mpr empty),
          Option.filter_some_pos (bne_iff_ne.mpr some'), length.symm⟩

end Fields.Alike

/-! ### Records with the same ids -/

section Ids

variable {records others : List Record} {draft other : Draft}

theorem length_congr (ids : records.map Record.id = others.map Record.id) :
    records.length = others.length := by
  rw [← List.length_map (f := Record.id), ids, List.length_map]

theorem nextIdAfter_congr (ids : records.map Record.id = others.map Record.id) :
    nextIdAfter records = nextIdAfter others := by
  have last := congrArg List.getLast? ids
  rw [List.getLast?_map, List.getLast?_map] at last
  unfold nextIdAfter
  cases e : records.getLast? with
  | none =>
      rw [e] at last
      rw [Option.map_eq_none_iff.mp last.symm]
  | some r =>
      rw [e] at last
      obtain ⟨r', e', id⟩ := Option.map_eq_some_iff.mp last.symm
      rw [e']
      exact congrArg (· + 1) id.symm

theorem Draft.Alike.check (h : draft.Alike other) : draft.check = other.check := by
  unfold Draft.check
  rw [h.name, h.state]

/-- What an addition returns is made of lengths and ids. -/
theorem addition_congr (h : draft.Alike other)
    (ids : records.map Record.id = others.map Record.id) :
    addition draft records = addition other others := by
  unfold addition
  rw [h.check, nextIdAfter_congr ids]

theorem Draft.Alike.additionEvents (h : draft.Alike other) (result : Except RepositoryError Int) :
    draft.additionEvents result = other.additionEvents result := by
  cases result with
  | ok id =>
      unfold Draft.additionEvents
      rw [h.name, h.state]
  | error e => rfl

theorem Draft.added_ids (draft other : Draft) (result : Except RepositoryError Int) :
    (draft.added result).map Record.id = (other.added result).map Record.id := by
  cases result with
  | ok id => rfl
  | error e => rfl

end Ids

namespace Http

/-! ### Requests and sites -/

/-- Requests with the same method and the same path; submissions are read as fields that are
alike. -/
structure Request.Alike (r q : Request) : Prop where
  method : r.method = q.method
  path : r.target.path = q.target.path
  form : r.IsSubmission → ∃ fields others, Form.readFields r = .ok fields ∧
    Form.readFields q = .ok others ∧ fields.Alike others

/-- Sites with the same draws and stores of the same kind, whose records have the same ids. -/
structure Site.Alike (s t : Site) : Prop where
  generator : s.generator = t.generator
  mode : s.store.mode = t.store.mode
  ids : ∃ d d' records others, s.Holds d ∧ t.Holds d' ∧ d.Archives records ∧ d'.Archives others ∧
    records.map Record.id = others.map Record.id

/-- What two requests leave: the same events and the same status, and sites that are alike. -/
structure Served.Alike (a b : Served) : Prop where
  events : a.events = b.events
  status : a.answer.status = b.answer.status
  site : a.site.Alike b.site

/-- The headers of an answer have its status. -/
theorem Served.Alike.headOnly {a b : Served} (h : Served.Alike a b) :
    Served.Alike { a with answer := a.answer.headOnly } { b with answer := b.answer.headOnly } :=
  ⟨h.events, h.status, h.site⟩

namespace Site

variable {s t : Site} {r q : Request} {d d' d₁ d₁' : Database} {records others : List Record}

/-- Two services whose works report the same are related as what they make of the results is. -/
theorem serve_related {α : Type} (related : Served → Served → Prop) (alike : s.Alike t)
    (holds : s.Holds d) (holds' : t.Holds d') (debug : Bool) (before : List Event)
    {work work' : Work RepositoryError α} {result result' : Except RepositoryError α}
    {events : List Event} {finish : α → Site → Answer × Site × List Event}
    (works : work ⟨.database d, false⟩ = ⟨.returned result, ⟨.database d₁, false⟩, events⟩)
    (works' : work' ⟨.database d', false⟩ = ⟨.returned result', ⟨.database d₁', false⟩, events⟩)
    (archives : d₁.Archives records) (archives' : d₁'.Archives others)
    (ids : records.map Record.id = others.map Record.id)
    (settled : ∀ site site' reported, Site.Alike site site' →
      related (settle debug finish site reported result)
        (settle debug finish site' reported result')) :
    related (serve debug before work finish s) (serve debug before work' finish t) := by
  obtain ⟨site, held, generator, mode, served⟩ := serve_holds holds debug before works
  obtain ⟨site', held', generator', mode', served'⟩ := serve_holds holds' debug before works'
  rw [served, served', alike.mode]
  exact settled site site' _ ⟨by rw [generator, generator', alike.generator],
    by rw [mode, mode', alike.mode], d₁, d₁', records, others, held, held', archives, archives',
    ids⟩

/-- **Reading all records** reports their number. -/
theorem all_alike (alike : s.Alike t) (debug : Bool) : (all debug s).Alike (all debug t) := by
  obtain ⟨d, d', records, others, holds, holds', archives, archives', ids⟩ := alike.ids
  have listed := archives'.list
  rw [← length_congr ids] at listed
  exact serve_related Served.Alike alike holds holds' debug _ archives.list listed archives
    archives' ids fun site site' reported same => ⟨rfl, rfl, same⟩

/-- **Reading one record** reports its id and the number of records. -/
theorem random_alike (alike : s.Alike t) (debug : Bool) :
    (random debug s).Alike (random debug t) := by
  obtain ⟨d, d', records, others, holds, holds', archives, archives', ids⟩ := alike.ids
  have picked := archives'.pick t.generator
  rw [← ids, ← alike.generator] at picked
  unfold random
  rw [← alike.generator]
  refine serve_related Served.Alike alike holds holds' debug _ (archives.pick s.generator) picked
    archives archives' ids fun site site' reported same => ?_
  cases records with
  | nil =>
      obtain rfl : others = [] := List.map_eq_nil_iff.mp ids.symm
      exact ⟨rfl, rfl, rfl, same.mode, same.ids⟩
  | cons first rest =>
      -- The same number is drawn, so the generators stay the same.
      obtain ⟨first', rest', rfl⟩ : ∃ first' rest', others = first' :: rest' := by
        cases others with
        | nil => cases ids
        | cons first' rest' => exact ⟨first', rest', rfl⟩
      have drawn : (s.generator.below (first :: rest).length).2 =
          (s.generator.below (first' :: rest').length).2 := by
        rw [length_congr ids]
      exact ⟨rfl, rfl, drawn, same.mode, same.ids⟩

/-- **Adding** reports an id and lengths, and answers alike. -/
theorem add_alike (alike : s.Alike t) (debug : Bool) {fields others : Fields}
    (read : Form.readFields r = .ok fields) (read' : Form.readFields q = .ok others)
    (same : fields.Alike others) :
    (add debug r s).Alike (add debug q t) ∧ (add debug r s).answer = (add debug q t).answer := by
  unfold add Form.read
  simp only [read, read']
  rcases same.firstNonEmpty "name" with ⟨none, none'⟩ | ⟨name, name', hn, hn', nameLength⟩
  · rw [none, none']
    rcases same.firstNonEmpty "state" with ⟨hs, hs'⟩ | ⟨state, state', hs, hs', -⟩
    · rw [hs, hs']
      exact ⟨⟨rfl, rfl, alike⟩, rfl⟩
    · rw [hs, hs']
      exact ⟨⟨rfl, rfl, alike⟩, rfl⟩
  rw [hn, hn']
  rcases same.firstNonEmpty "state" with ⟨none, none'⟩ | ⟨state, state', hs, hs', stateLength⟩
  · rw [none, none']
    exact ⟨⟨rfl, rfl, alike⟩, rfl⟩
  · rw [hs, hs']
    obtain ⟨d, d', records, others, holds, holds', archives, archives', ids⟩ := alike.ids
    have drafts : Draft.Alike ⟨name, state⟩ ⟨name', state'⟩ := ⟨nameLength, stateLength⟩
    obtain ⟨d₁, works, added, -⟩ := archives.add ⟨name, state⟩
    obtain ⟨d₁', works', added', -⟩ := archives'.add ⟨name', state'⟩
    rw [← addition_congr drafts ids] at works' added'
    rw [← drafts.additionEvents] at works'
    refine serve_related (fun a b => a.Alike b ∧ a.answer = b.answer) alike holds holds' debug _
      works works' added added' ?_ fun site site' reported same => ?_
    · rw [List.map_append, List.map_append, ids, Draft.added_ids]
    · cases addition ⟨name, state⟩ records with
      | ok id => exact ⟨⟨rfl, rfl, same⟩, rfl⟩
      | error e => exact ⟨⟨rfl, rfl, same⟩, rfl⟩

/-! ### Runs -/

/-- **A request** reports the same at sites that are alike, and a submission is answered alike. -/
theorem handle_alike (alike : s.Alike t) (debug : Bool) (same : r.Alike q) :
    (handle debug r s).Alike (handle debug q t) ∧
      (r.IsSubmission → (handle debug r s).answer = (handle debug q t).answer) := by
  by_cases submission : r.IsSubmission
  · obtain ⟨fields, others, read, read', form⟩ := same.form submission
    have submission' : q.IsSubmission := ⟨same.method ▸ submission.1, same.path ▸ submission.2⟩
    rw [handle_of_isSubmission debug s submission, handle_of_isSubmission debug t submission']
    obtain ⟨served, answer⟩ := add_alike alike debug read read' form
    exact ⟨served, fun _ => answer⟩
  · -- Both requests take the same course, and it is not that of a submission.
    refine ⟨?_, fun h => absurd h submission⟩
    rw [handle_eq, handle_eq, ← same.method, ← same.path]
    have service : ∀ route headersOnly, course r.method r.target.path = .serve route headersOnly →
        (service debug r s route).Alike (service debug q t route) := by
      intro route headersOnly e
      cases route with
      | random => exact random_alike alike debug
      | all => exact all_alike alike debug
      | add =>
          obtain ⟨method, path, -⟩ := course_eq_add e
          exact absurd ⟨method, path⟩ submission
    cases e : course r.method r.target.path with
    | answer answer => exact ⟨rfl, rfl, alike⟩
    | serve route headersOnly =>
        cases headersOnly with
        | false => exact service route false e
        | true => exact (service route true e).headOnly

/-- **Runs** report the same at sites that are alike. -/
theorem handleAll_alike (debug : Bool) {requests others : List Request}
    (same : List.Forall₂ Request.Alike requests others) (alike : s.Alike t) :
    let left := handleAll debug requests s
    let right := handleAll debug others t
    left.2.2 = right.2.2 ∧ left.1.map Answer.status = right.1.map Answer.status ∧
      ∀ (i : Nat) (r : Request), requests[i]? = some r → r.IsSubmission →
        left.1[i]? = right.1[i]? := by
  induction same generalizing s t with
  | nil => exact ⟨rfl, rfl, fun i r e => by cases e⟩
  | @cons r q rest rest' first more ih =>
      obtain ⟨served, answer⟩ := handle_alike alike debug first
      obtain ⟨events, statuses, answers⟩ := ih served.site
      refine ⟨?_, ?_, fun i r' e submission => ?_⟩
      · exact congrArg₂ (· ++ ·) served.events events
      · exact congrArg₂ (· :: ·) served.status statuses
      · cases i with
        | zero =>
            obtain rfl : r = r' := Option.some.inj e
            exact congrArg some (answer submission)
        | succ i => exact answers i r' e submission

/-! ### Discretion -/

/-- New stores of the same kind are alike. -/
theorem Alike.new (new : s.store.IsNew s.disk) (new' : t.store.IsNew t.disk)
    (mode : s.store.mode = t.store.mode) (generator : s.generator = t.generator) : s.Alike t := by
  have empty : Database.fresh.Archives [] := ⟨_, rfl, rfl, rfl, rfl⟩
  exact ⟨generator, mode, .fresh, .fresh, [], [], new.holds, new'.holds, empty, empty, rfl⟩

/-- **Only lengths are reported.**  Two runs from new stores of the same kind, with the same draws,
answer requests with the same methods and paths, and the forms that are submitted are read as
fields with the same keys and with values of the same lengths.  Then the runs report the same
events, every request has the same status in both, and every submission the same answer. -/
theorem discretion (new : s.store.IsNew s.disk) (new' : t.store.IsNew t.disk)
    (mode : s.store.mode = t.store.mode) (generator : s.generator = t.generator) (debug : Bool)
    {requests others : List Request} (same : List.Forall₂ Request.Alike requests others) :
    let left := handleAll debug requests s
    let right := handleAll debug others t
    left.2.2 = right.2.2 ∧ left.1.map Answer.status = right.1.map Answer.status ∧
      ∀ (i : Nat) (r : Request), requests[i]? = some r → r.IsSubmission →
        left.1[i]? = right.1[i]? :=
  handleAll_alike debug same (.new new new' mode generator)

/-- A new site on the file `a.db`. -/
def fileSite : Site :=
  ⟨⟨.file "a.db", .file "a.db"⟩, ⟨[], [(["a.db"], .file (.database .fresh))]⟩, .cycle [7]⟩

/-- A new site on the file `b.db`. -/
def otherFileSite : Site :=
  ⟨⟨.file "b.db", .file "b.db"⟩, ⟨[], [(["b.db"], .file (.database .fresh))]⟩, .cycle [7]⟩

/-- A submission of a name and the state `x`. -/
def submissionOfName (name : String) : Request :=
  ⟨octetsOf "POST", ⟨octetsOf "/add", none⟩,
    [(contentType, octetsOf "application/x-www-form-urlencoded")],
    octetsOf ("name=" ++ name ++ "&state=x")⟩

/-- A request for one record. -/
def oneSample : Request :=
  ⟨octetsOf "GET", ⟨octetsOf "/", none⟩, [], []⟩

theorem discretion_fileSites :
    let left := handleAll true [submissionOfName "a", oneSample] fileSite
    let right := handleAll true [submissionOfName "%C3%A9", oneSample] otherFileSite
    left.2.2 = right.2.2 ∧ left.1[0]? = right.1[0]? ∧ left.1[1]? ≠ right.1[1]? := by
  have file : Location.parse "a.db" = .ok (.file "a.db") := rfl
  have file' : Location.parse "b.db" = .ok (.file "b.db") := rfl
  have absent : ({} : Disk).node? (({} : Disk).resolve "a.db") = none := rfl
  have absent' : ({} : Disk).node? (({} : Disk).resolve "b.db") = none := rfl
  have new : fileSite.store.IsNew fileSite.disk := .file file (by decide) absent rfl
  have new' : otherFileSite.store.IsNew otherFileSite.disk := .file file' (by decide) absent' rfl
  have first : (submissionOfName "a").Alike (submissionOfName "%C3%A9") :=
    ⟨rfl, rfl, fun _ => ⟨[("name", "a"), ("state", "x")], [("name", "é"), ("state", "x")],
      by decide +kernel, by decide +kernel, .cons ⟨rfl, rfl⟩ (.cons ⟨rfl, rfl⟩ .nil)⟩⟩
  have second : oneSample.Alike oneSample := ⟨rfl, rfl, fun h => absurd h (by decide)⟩
  obtain ⟨events, -, answers⟩ :=
    discretion new new' rfl rfl true (.cons first (.cons second .nil))
  exact ⟨events, answers 0 _ rfl ⟨rfl, rfl⟩, by decide +kernel⟩

end Site

end Http

end FractalArchive
