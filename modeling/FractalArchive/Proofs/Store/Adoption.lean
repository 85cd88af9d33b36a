import FractalArchive.Proofs.Service.Archiving
import FractalArchive.Proofs.Store.Restart

/-!
# Adopting files of earlier deployments

A file may have been written before versions were stored, or by an archive of the latest version.
Connecting to it keeps its rows and stores the latest version; after any operations and restarts its
records come first, unchanged, then those that were added, and the ids ascend strictly.  A file of a
newer version is refused and left as it was (`adoption`).

A run keeps an invariant: the file keeps a database of the latest version, which archives the
records so far (`runs_archives`).  An operation keeps it (`Operation.works_archives`), and so does a
restart, since a file of the latest version is connected without a change.
-/

namespace FractalArchive

/-! ### Ids -/

theorem Database.Archives.lt_nextIdAfter {d : Database} {records : List Record}
    (h : d.Archives records) : ∀ r ∈ records, r.id < nextIdAfter records := by
  obtain ⟨t, -, -, sequence, rows⟩ := h
  intro r hr
  rw [← Table.nextId_of_rows sequence rows]
  exact Table.lt_nextId r.row (rows ▸ List.mem_map_of_mem hr)

theorem nextIdAfter_le {records : List Record} (h : ∀ r ∈ records, r.id < Cell.greatestInteger) :
    nextIdAfter records ≤ Cell.greatestInteger := by
  unfold nextIdAfter
  split
  next r last => exact h r (List.mem_of_getLast? last)
  · decide

/-! ### Records that a run adds -/

namespace Service

/-- The record that an operation adds, from how it ends. -/
def Operation.added : Operation → Outcome RepositoryError Reply → List Record
  | .add draft, .returned (.ok (.added id)) => [draft.withId id]
  | _, _ => []

theorem Operation.added_of_ne {operation : Operation} (h : ∀ draft, operation ≠ .add draft)
    (outcome : Outcome RepositoryError Reply) : operation.added outcome = [] := by
  cases operation with
  | add draft => exact absurd rfl (h draft)
  | list | find id | count | pick generator => rfl

/-- **An operation** on a database that archives records leaves one that archives them with what it
adds, in the same version. -/
theorem Operation.works_archives {d : Database} {records : List Record} (operation : Operation)
    (h : d.Archives records) :
    ∃ result d' events, operation.work ⟨.database d, false⟩ =
      ⟨.returned result, ⟨.database d', false⟩, events⟩ ∧ d'.userVersion = d.userVersion ∧
        d'.Archives (records ++ operation.added (.returned result)) := by
  by_cases adds : ∃ draft, operation = .add draft
  · obtain ⟨draft, rfl⟩ := adds
    obtain ⟨d', works, archives, version⟩ := h.add draft
    refine ⟨_, d', _, Work.map_returned _ works, version, ?_⟩
    cases e : addition draft records with
    | ok id => rwa [e] at archives
    | error cause => rwa [e] at archives
  · have reads := not_exists.mp adds
    obtain ⟨result, events, e⟩ := Operation.reads reads ⟨.database d, false⟩
    refine ⟨result, d, events, e, rfl, ?_⟩
    rwa [added_of_ne reads, List.append_nil]

end Service

namespace Store

open Service (Operation Reply)

/-- A run from a store and its disk: its operations end as given, one after another, its restarts
succeed, and it leaves this store and this disk. -/
inductive Runs : List Step → Store → Disk → List (Outcome RepositoryError Reply) → Store → Disk →
    Prop where
  | done (s : Store) (disk : Disk) : Runs [] s disk [] s disk
  | operate {operation : Operation} {rest : List Step} {s s₁ s' : Store} {disk disk₁ disk' : Disk}
      {outcome : Outcome RepositoryError Reply} {outcomes : List (Outcome RepositoryError Reply)}
      {events : List Event} (session : s.withSession RepositoryError.store operation.work disk =
        ⟨outcome, s₁, disk₁, events⟩)
      (more : Runs rest s₁ disk₁ outcomes s' disk') :
      Runs (.operate operation :: rest) s disk (outcome :: outcomes) s' disk'
  | restart {url : String} {rest : List Step} {s s₁ s' : Store} {disk disk₁ disk' : Disk}
      {outcomes : List (Outcome RepositoryError Reply)} {events : List Event}
      (closed : s.close.1 = .ok ()) (connected : connect url disk = (.ok s₁, disk₁, events))
      (more : Runs rest s₁ disk₁ outcomes s' disk') :
      Runs (.restart url :: rest) s disk outcomes s' disk'

/-- The records that the operations of a run add, from how they end. -/
def addedBy : List Step → List (Outcome RepositoryError Reply) → List Record
  | .operate operation :: rest, outcome :: outcomes =>
    operation.added outcome ++ addedBy rest outcomes
  | .restart _ :: rest, outcomes => addedBy rest outcomes
  | _, _ => []

variable {url path : String} {disk : Disk} {d : Database} {records : List Record}

/-! ### Connecting -/

/-- A table from before the versions, or of the latest one, is kept. -/
theorem upgrade_adopted {t : Table} (table : d.catalog.fractals = .table t)
    (version : d.userVersion = 0 ∨ d.userVersion = Migration.latestVersion) :
    ∃ d' applied, Migration.upgradeConnection Migration.registry ⟨.database d, false⟩ =
        (.ok (), ⟨.database d', false⟩, applied) ∧
      d'.userVersion = Migration.latestVersion ∧ d'.catalog = d.catalog := by
  rcases version with zero | latest
  · have scripts : Migration.runScripts (Migration.pending d.userVersion Migration.registry)
        d.catalog = .ok d.catalog := by
      rw [zero]
      show d.catalog.defineIfAbsent >>= _ = _
      unfold Catalog.defineIfAbsent
      rw [table]
      rfl
    obtain ⟨d', upgraded, version, catalog⟩ := Migration.upgrade_of_ok Migration.sound_registry
      (Int.le_of_eq zero.symm) (by rw [zero]; decide) scripts
    exact ⟨d', _, Migration.upgradeConnection_of_upgrade upgraded, version, catalog⟩
  · exact ⟨d, [], upgrade_latest latest, latest, rfl⟩

/-- A file of a newer version is refused and left as it was. -/
theorem connect_newer (file : Location.parse url = .ok (.file path)) {readOnly : Bool}
    (finds : disk.Finds path ⟨.database d, readOnly⟩)
    (newer : Migration.latestVersion < d.userVersion) :
    ∃ disk' events, connect url disk =
      (.error (.newerSchema d.userVersion.toNat Migration.latestVersion), disk', events) ∧
        ∀ q, disk'.node? q = disk.node? q := by
  have nonzero : d.userVersion ≠ 0 := by
    have : (0 : Int) ≤ Migration.latestVersion := Int.natCast_nonneg _
    omega
  obtain ⟨p, opens, connection, node⟩ := finds.file_of_version nonzero
  have refused : Migration.upgradeConnection Migration.registry ⟨.database d, readOnly⟩ =
      (.error (.newerSchema d.userVersion.toNat Migration.latestVersion),
        ⟨.database d, readOnly⟩, []) :=
    Migration.upgradeConnection_of_nil (Migration.upgrade_of_newer newer)
  have connected : ∃ events, connect url disk =
      (.error (.newerSchema d.userVersion.toNat Migration.latestVersion),
        disk.put p (.file (.database d)), events) := by
    unfold connect connectWith Opening.fileWith Opening.openWith Opening.bootstrap
    simp only [file, Engine.opening_standard, Engine.registry_standard, opens, connection, refused]
    exact ⟨_, rfl⟩
  obtain ⟨events, connected⟩ := connected
  refine ⟨_, events, connected, fun q => ?_⟩
  by_cases here : q = p
  · rw [here, Disk.node?_put_self _ _ (Disk.inside_of_openDatabase opens), node]
  · exact Disk.node?_put_of_ne _ _ here

/-! ### Runs -/

theorem Runs.run_eq {steps : List Step} {s s' : Store} {disk' : Disk}
    {outcomes : List (Outcome RepositoryError Reply)} (runs : Runs steps s disk outcomes s' disk') :
    run steps s disk = .ok outcomes := by
  induction runs with
  | done s disk => rfl
  | operate session more ih =>
      rw [run, session]
      simp only [ih]
      rfl
  | @restart url rest s s₁ s' disk disk₁ disk' outcomes events closed connected more ih =>
      have e : s.close = (.ok (), s.close.2) := Prod.ext closed rfl
      rw [run, e]
      simp only [connected]
      exact ih

/-- **A run** keeps a database of the latest version in the file, and its operations add to the
records. -/
theorem runs_archives {steps : List Step}
    (same : ∀ url, .restart url ∈ steps → Location.parse url = .ok (.file path))
    (keeps : disk.Keeps path d) (latest : d.userVersion = Migration.latestVersion)
    (archives : d.Archives records) :
    ∃ outcomes disk' d',
      Runs steps ⟨.file path, .file path⟩ disk outcomes ⟨.file path, .file path⟩ disk' ∧
        disk'.Keeps path d' ∧ d'.userVersion = Migration.latestVersion ∧
        d'.Archives (records ++ addedBy steps outcomes) := by
  induction steps generalizing disk d records with
  | nil =>
      refine ⟨[], disk, d, .done _ _, keeps, latest, ?_⟩
      show d.Archives (records ++ [])
      rwa [List.append_nil]
  | cons step rest ih =>
      have same' := fun url h => same url (List.mem_cons_of_mem step h)
      cases step with
      | operate operation =>
          -- What the operation adds stands between the records so far and those of the rest.
          obtain ⟨result, d₁, events, works, version, archives₁⟩ :=
            operation.works_archives archives
          obtain ⟨disk₁, session, keeps₁⟩ :=
            file_session (s := ⟨.file path, .file path⟩) rfl keeps RepositoryError.store works
          obtain ⟨outcomes, disk', d', more, keeps', latest', archives'⟩ :=
            ih same' keeps₁ (version.trans latest) archives₁
          rw [List.append_assoc] at archives'
          exact ⟨_, disk', d', .operate session more, keeps', latest', archives'⟩
      | restart url =>
          -- The version is the latest already, so connecting changes no record.
          obtain ⟨disk₁, keeps₁, connected⟩ :=
            connect_kept (same url List.mem_cons_self) keeps latest
          obtain ⟨outcomes, disk', d', more, kept⟩ := ih same' keeps₁ latest archives
          exact ⟨outcomes, disk', d', .restart rfl connected more, kept⟩

/-! ### Adoption -/

/-- What a file that archives records gives: the records, and a greater id for every draft. -/
theorem sessions_archive (keeps : disk.Keeps path d) (archives : d.Archives records) :
    ((⟨.file path, .file path⟩ : Store).withSession RepositoryError.store Service.list
        disk).outcome = .returned (.ok records) ∧
      ∀ draft : Draft, draft.check = .ok () → (∀ r ∈ records, r.id < Cell.greatestInteger) →
        ∃ id, ((⟨.file path, .file path⟩ : Store).withSession RepositoryError.store
          (Service.add draft) disk).outcome = .returned (.ok id) ∧ ∀ r ∈ records, r.id < id := by
  constructor
  · obtain ⟨disk', session, -⟩ :=
      file_session (s := ⟨.file path, .file path⟩) rfl keeps RepositoryError.store archives.list
    rw [session]
  · intro draft short below
    obtain ⟨d', added, -⟩ := archives.add draft
    have next : addition draft records = .ok (nextIdAfter records) := by
      unfold addition
      rw [short]
      exact if_pos (nextIdAfter_le below)
    rw [next] at added
    obtain ⟨disk', session, -⟩ :=
      file_session (s := ⟨.file path, .file path⟩) rfl keeps RepositoryError.store added
    exact ⟨nextIdAfter records, by rw [session], archives.lt_nextIdAfter⟩

/-- **Adoption.**  A file that keeps a table of records with any ids and texts, from before versions
were stored or of the latest version, is connected; and whatever operations and restarts follow, all
of them succeed in connecting, and the file keeps the latest version.  Its records are those that it
had and then those that were added, in strictly ascending order of the ids; a listing gives all of
them, and a draft that is short enough gets an id greater than all of theirs, as long as these are
below the greatest integer.  A file of a newer version is refused, and every path denotes what it
did. -/
theorem adoption (file : Location.parse url = .ok (.file path)) :
    (∀ (d : Database) (records : List Record), disk.Keeps path d → d.Archives records →
      (d.userVersion = 0 ∨ d.userVersion = Migration.latestVersion) →
      ∃ s disk₁ events, connect url disk = (.ok s, disk₁, events) ∧
        ∀ steps : List Step,
          (∀ url, .restart url ∈ steps → Location.parse url = .ok (.file path)) →
          ∃ outcomes s' disk' d', Runs steps s disk₁ outcomes s' disk' ∧
            disk'.Keeps path d' ∧ d'.userVersion = Migration.latestVersion ∧
            let now := records ++ addedBy steps outcomes
            d'.Archives now ∧ now.Pairwise (fun a b => a.id < b.id) ∧
            (s'.withSession RepositoryError.store Service.list disk').outcome =
              .returned (.ok now) ∧
            ∀ draft : Draft, draft.check = .ok () → (∀ r ∈ now, r.id < Cell.greatestInteger) →
              ∃ id, (s'.withSession RepositoryError.store (Service.add draft) disk').outcome =
                .returned (.ok id) ∧ ∀ r ∈ now, r.id < id) ∧
      ∀ (d : Database) (readOnly : Bool), disk.Finds path ⟨.database d, readOnly⟩ →
        Migration.latestVersion < d.userVersion →
        ∃ disk' events, connect url disk =
          (.error (.newerSchema d.userVersion.toNat Migration.latestVersion), disk', events) ∧
            ∀ q, disk'.node? q = disk.node? q := by
  refine ⟨fun d records keeps archives version => ?_,
    fun d readOnly finds newer => connect_newer file finds newer⟩
  have ⟨_, table, _⟩ := archives
  obtain ⟨d₁, applied, upgraded, latest₁, catalog⟩ := upgrade_adopted table version
  obtain ⟨disk₁, keeps₁, connected⟩ := connect_upgraded file keeps upgraded
  refine ⟨_, disk₁, _, connected, fun steps same => ?_⟩
  obtain ⟨outcomes, disk', d', runs, keeps', latest, archives'⟩ :=
    runs_archives same keeps₁ latest₁ (archives.of_eq catalog)
  obtain ⟨listed, added⟩ := sessions_archive keeps' archives'
  exact ⟨outcomes, _, disk', d', runs, keeps', latest, archives', archives'.ascending, listed,
    added⟩

/-- A table as earlier deployments left it. -/
def legacySample : Table where
  rows := [⟨-5, "a", "b"⟩, ⟨3, "c", ""⟩].map Record.row
  ascending := by decide

/-- A disk with a file from before the versions and one of a newer version. -/
def legacyDisk : Disk :=
  ⟨[], [(["old.db"], .file (.database ⟨0, { fractals := .table legacySample }⟩)),
    (["new.db"], .file (.database ⟨999, {}⟩))]⟩

/-- Two additions with a restart between them. -/
def legacySteps : List Step :=
  [.operate (.add ⟨"e", "f"⟩), .restart "old.db", .operate (.add ⟨"a", "b"⟩)]

theorem adoption_legacyDisk :
    (∃ s disk₁ events outcomes s' disk',
      connect "sqlite:///old.db" legacyDisk = (.ok s, disk₁, events) ∧
        Runs legacySteps s disk₁ outcomes s' disk' ∧
        (s'.withSession RepositoryError.store Service.list disk').outcome = .returned (.ok
          [⟨-5, "a", "b"⟩, ⟨3, "c", ""⟩, ⟨4, "e", "f"⟩, ⟨5, "a", "b"⟩])) ∧
      ∃ disk' events, connect "new.db" legacyDisk = (.error (.newerSchema 999 1), disk', events) ∧
        ∀ q, disk'.node? q = legacyDisk.node? q := by
  have old : Location.parse "sqlite:///old.db" = .ok (.file "old.db") := rfl
  have new : Location.parse "new.db" = .ok (.file "new.db") := rfl
  constructor
  · have keeps : legacyDisk.Keeps "old.db" ⟨0, { fractals := .table legacySample }⟩ :=
      ⟨["old.db"], rfl, rfl⟩
    obtain ⟨s, disk₁, events, connected, runs⟩ := (adoption old).1 _
      [⟨-5, "a", "b"⟩, ⟨3, "c", ""⟩] keeps ⟨_, rfl, rfl, rfl, rfl⟩ (.inl rfl)
    have same : ∀ url, .restart url ∈ legacySteps → Location.parse url = .ok (.file "old.db") := by
      intro url restart
      simp only [legacySteps, List.mem_cons, reduceCtorEq, Step.restart.injEq, List.not_mem_nil,
        false_or, or_false] at restart
      rw [restart]
      rfl
    obtain ⟨outcomes, s', disk', d', runs, -, -, -, -, listed, -⟩ := runs legacySteps same
    refine ⟨s, disk₁, events, outcomes, s', disk', connected, runs, ?_⟩
    -- The run is the same as a computation, so its outcomes are known.
    obtain ⟨e₁, e₂⟩ := Prod.mk.inj connected
    obtain rfl := Except.ok.inj e₁
    obtain ⟨rfl, -⟩ := Prod.mk.inj e₂
    obtain rfl : [.returned (.ok (.added 4)), .returned (.ok (.added 5))] = outcomes :=
      Except.ok.inj runs.run_eq
    exact listed
  · have finds : legacyDisk.Finds "new.db" ⟨.database ⟨999, {}⟩, false⟩ :=
      ⟨.file ["new.db"] false, rfl, rfl⟩
    exact (adoption new).2 _ _ finds (by decide)

end Store

end FractalArchive
