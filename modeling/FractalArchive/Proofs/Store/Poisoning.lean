import FractalArchive.Proofs.Store.Holding
import FractalArchive.Proofs.Store.Jobs

/-!
# Panics in sessions

Jobs run in sessions of one store, one session each, and then the store is closed.  What they would
do on one connection, each on what the last one left (`performAll`), is what they do on a file,
panics included.  In memory it is what they do up to the first panic; from then on every session is
refused without running its job, nothing changes any more, and closing fails (`poisoning`).

On a file the induction over the jobs carries that the disk has under the name of the store what
the jobs so far have left (`sessions_file`).  In memory it goes until the first panic, after which
every session leaves everything as it is (`sessions_poisoned`, `sessions_memory`).
-/

namespace FractalArchive

/-! ### Finding again what is left -/

/-- What jobs leave is found under the name by which the database was opened. -/
theorem Disk.finds_of_grows {disk disk' : Disk} {name : String} {handle : Handle} {c : Connection}
    (h : disk.openDatabase name = .ok (handle, disk'))
    (grows : (disk'.connection handle).Grows c) : (disk'.store handle c).Finds name c := by
  rcases grows with rfl | ⟨d, d', shown, rfl, some⟩
  · exact finds_store_connection h
  cases handle with
  | own _ =>
      -- A database of the connection's own has no table to add to.
      cases shown
      exact absurd rfl some
  | file p readOnly =>
      obtain rfl : readOnly = false := congrArg Connection.readOnly shown
      obtain ⟨before, file⟩ := file_of_writable h
      exact finds_store h file d'

/-- What an upgrade leaves in a file is found under the name by which the file was opened. -/
theorem Disk.finds_upgraded {disk disk' : Disk} {name : String} {p : Path} {readOnly : Bool}
    (h : disk.openDatabase name = .ok (.file p readOnly, disk')) {c : Connection}
    {applied : List Nat} (upgraded : Migration.upgradeConnection Migration.registry
      (disk'.connection (.file p readOnly)) = (.ok (), c, applied)) :
    (disk'.store (.file p readOnly) c).Finds name c := by
  obtain ⟨d, d', shown, -, rfl, -⟩ :=
    (Migration.upgradeConnection_eq_ok_iff Migration.sound_registry).mp upgraded
  obtain ⟨before, file⟩ := file_of_openDatabase h fun cause unread => by
    cases shown.symm.trans unread
  exact finds_store h file d'

namespace Store

open Job (Performance performAll performAll_hasRows)

variable {ε α : Type} {s : Store} {disk disk' : Disk} {url path : String} {c : Connection}

/-- The location of a store is that of its connection string. -/
theorem connect_location {events : List Event}
    (connected : connect url disk = (.ok s, disk', events)) :
    Location.parse url = .ok s.location := by
  unfold connect connectWith at connected
  split at connected
  · cases connected
  next memory =>
    split at connected
    · obtain ⟨rfl, -⟩ := connected
      exact memory
    · cases connected
  next path file =>
    split at connected
    · obtain ⟨rfl, -⟩ := connected
      exact file
    · cases connected

/-- A store that is connected to a file has a connection under the name of its path. -/
theorem connect_finds (file : Location.parse url = .ok (.file path)) {events : List Event}
    (connected : connect url disk = (.ok s, disk', events)) :
    s = ⟨.file path, .file path⟩ ∧ ∃ c, disk'.Finds path c := by
  obtain ⟨rfl, handle, disk₁, c, applied, opens, upgraded, rfl⟩ := connect_file_eq_ok file connected
  refine ⟨rfl, ?_⟩
  cases handle with
  | own _ => exact ⟨_, Disk.finds_own opens⟩
  | file p readOnly => exact ⟨_, Disk.finds_upgraded opens upgraded⟩

/-! ### Runs of sessions -/

/-- What sessions leave. -/
structure Sessions (ε α : Type) where
  outcomes : List (Outcome ε α)
  store : Store
  disk : Disk

/-- Runs jobs in sessions of a store, one session each. -/
def sessions (lift : StoreError → ε) : List (Job ε α) → Store → Disk → Sessions ε α
  | [], s, disk => ⟨[], s, disk⟩
  | t :: rest, s, disk =>
    let session := s.withSession lift t.work disk
    let after := sessions lift rest session.store session.disk
    ⟨session.outcome :: after.outcomes, after.store, after.disk⟩

/-- **On a file**, jobs in sessions do what they do on one connection. -/
theorem sessions_file (lift : StoreError → ε) (jobs : List (Job ε α))
    (finds : disk.Finds path c) :
    ∃ disk', sessions lift jobs ⟨.file path, .file path⟩ disk =
        ⟨(performAll jobs c).outcomes, ⟨.file path, .file path⟩, disk'⟩ ∧
      disk'.Finds path (performAll jobs c).connection := by
  induction jobs generalizing disk c with
  | nil => exact ⟨disk, rfl, finds⟩
  | cons t rest ih =>
      obtain ⟨handle, opens, rfl⟩ := finds
      obtain ⟨disk', ran, finds'⟩ :=
        ih (Disk.finds_of_grows opens (t.work_grows (disk.connection handle)))
      refine ⟨disk', ?_, finds'⟩
      rw [sessions, withSession]
      simp only [opens, ran]
      rfl

/-- A poisoned store refuses every piece of work without running it. -/
theorem withSession_poisoned (lift : StoreError → ε) (work : Work ε α) (location : Location)
    (contents : Contents) (disk : Disk) :
    (⟨location, .memory contents true⟩ : Store).withSession lift work disk =
      ⟨.returned (.error (lift .poisoned)), ⟨location, .memory contents true⟩, disk, []⟩ :=
  rfl

/-- Sessions of a poisoned store leave it as it is. -/
theorem sessions_poisoned (lift : StoreError → ε) (jobs : List (Job ε α)) (location : Location)
    (contents : Contents) (disk : Disk) :
    sessions lift jobs ⟨location, .memory contents true⟩ disk =
      ⟨jobs.map fun _ => .returned (.error (lift .poisoned)), ⟨location, .memory contents true⟩,
        disk⟩ := by
  induction jobs with
  | nil => rfl
  | cons t rest ih => rw [sessions, withSession_poisoned, ih, List.map_cons]

/-- The first session in memory runs its job, and poisons the store if this panics. -/
theorem sessions_cons_memory (writable : c.readOnly = false) (lift : StoreError → ε) (t : Job ε α)
    (rest : List (Job ε α)) (location : Location) (disk : Disk) :
    sessions lift (t :: rest) ⟨location, .memory c.contents false⟩ disk =
      let after := sessions lift rest
        ⟨location, .memory (t.work c).connection.contents (t.work c).outcome.isPanic⟩ disk
      ⟨(t.work c).outcome :: after.outcomes, after.store, after.disk⟩ := by
  obtain ⟨contents, _⟩ := c
  cases writable
  rfl

/-- **In memory**, jobs in sessions do what they do on one connection up to the first panic; what
that session leaves is left by all later ones. -/
theorem sessions_memory (writable : c.readOnly = false) (lift : StoreError → ε)
    (jobs : List (Job ε α)) (location : Location) (disk : Disk) :
    ((∀ o ∈ (performAll jobs c).outcomes, o.isPanic = false) ∧
        sessions lift jobs ⟨location, .memory c.contents false⟩ disk =
          ⟨(performAll jobs c).outcomes,
            ⟨location, .memory (performAll jobs c).connection.contents false⟩, disk⟩) ∨
      ∃ before t later, jobs = before ++ t :: later ∧
        (∀ o ∈ (performAll before c).outcomes, o.isPanic = false) ∧
        (t.work (performAll before c).connection).outcome.isPanic = true ∧
        sessions lift jobs ⟨location, .memory c.contents false⟩ disk =
          ⟨(performAll (before ++ [t]) c).outcomes ++
              later.map fun _ => .returned (.error (lift .poisoned)),
            ⟨location, .memory (performAll (before ++ [t]) c).connection.contents true⟩, disk⟩ := by
  induction jobs generalizing c with
  | nil => exact .inl ⟨fun o h => absurd h List.not_mem_nil, rfl⟩
  | cons t rest ih =>
      have ih := ih ((t.work_grows c).readOnly.trans writable)
      rw [sessions_cons_memory writable]
      cases panic : (t.work c).outcome.isPanic with
      | true =>
          -- This job is the first to panic, and all that follow it are refused.
          refine .inr ⟨[], t, rest, rfl, fun o h => absurd h List.not_mem_nil, panic, ?_⟩
          rw [sessions_poisoned]
          rfl
      | false =>
          -- The first panic of the run, if there is one, is that of the rest.
          rcases ih with ⟨quiet, ran⟩ | ⟨before, t', later, rfl, quiet, panics, ran⟩
          · refine .inl ⟨List.forall_mem_cons.mpr ⟨panic, quiet⟩, ?_⟩
            rw [ran]
            rfl
          · refine .inr ⟨t :: before, t', later, rfl, List.forall_mem_cons.mpr ⟨panic, quiet⟩,
              panics, ?_⟩
            rw [ran]
            rfl

/-! ### Poisoning -/

/-- **Poisoning.**  Jobs run in sessions of a store that has been connected, one session each.

In memory, either no job panics; then each session ends as its job does on what the jobs before
have left, and the store can be closed.  Or there is a first job that panics.  Up to and with it,
sessions end as their jobs do; every later one is refused, and so is any further piece of work.  The
store keeps what was there after the panic, and cannot be closed.

On a file, every session ends as its job does on what the jobs before have left, panics included;
the store is as it was, what the jobs have left is found under its path, and it can be closed.

In each case the records that the jobs have added, however these ended, are the last rows. -/
theorem poisoning {events : List Event} (connected : connect url disk = (.ok s, disk', events))
    (lift : StoreError → ε) :
    (s.location = .memory → ∀ jobs : List (Job ε α),
      let c : Connection := ⟨.database .fresh, false⟩
      let left := sessions lift jobs s disk'
      (let alone := performAll jobs c;
        (∀ o ∈ alone.outcomes, o.isPanic = false) ∧ left.outcomes = alone.outcomes ∧
          left.store = ⟨.memory, .memory alone.connection.contents false⟩ ∧
          alone.connection.HasRows (alone.added.map Record.row) ∧ left.store.close.1 = .ok ()) ∨
      ∃ before t later, jobs = before ++ t :: later ∧
        let alone := performAll (before ++ [t]) c
        (∀ o ∈ (performAll before c).outcomes, o.isPanic = false) ∧
          (t.work (performAll before c).connection).outcome.isPanic = true ∧
          left.outcomes =
            alone.outcomes ++ later.map (fun _ => .returned (.error (lift .poisoned))) ∧
          left.store = ⟨.memory, .memory alone.connection.contents true⟩ ∧
          alone.connection.HasRows (alone.added.map Record.row) ∧
          (∀ work : Work ε α, left.store.withSession lift work left.disk =
            ⟨.returned (.error (lift .poisoned)), left.store, left.disk, []⟩) ∧
          left.store.close.1 = .error .poisoned) ∧
    ∀ path, s.location = .file path → ∃ c, disk'.Finds path c ∧ ∀ jobs : List (Job ε α),
      let left := sessions lift jobs s disk'
      let alone := performAll jobs c
      left.outcomes = alone.outcomes ∧ left.store = s ∧
        left.disk.Finds path alone.connection ∧
        (∀ rows, c.HasRows rows → alone.connection.HasRows (rows ++ alone.added.map Record.row)) ∧
        left.store.close.1 = .ok () := by
  have parsed := connect_location connected
  constructor
  · intro memory jobs
    rw [memory] at parsed
    rw [connect_memory parsed] at connected
    obtain ⟨rfl, -⟩ := connected
    have empty : (⟨.database .fresh, false⟩ : Connection).HasRows [] := ⟨_, _, rfl, rfl, rfl⟩
    rcases sessions_memory (c := ⟨.database .fresh, false⟩) rfl lift jobs .memory disk with
      ⟨quiet, ran⟩ | ⟨before, t, later, rfl, quiet, panics, ran⟩
    · refine .inl ?_
      rw [ran]
      exact ⟨quiet, rfl, rfl, performAll_hasRows jobs empty, rfl⟩
    · refine .inr ⟨before, t, later, rfl, ?_⟩
      rw [ran]
      exact ⟨quiet, panics, rfl, rfl, performAll_hasRows _ empty, fun _ => rfl, rfl⟩
  · intro path file
    rw [file] at parsed
    obtain ⟨rfl, c, finds⟩ := connect_finds parsed connected
    refine ⟨c, finds, fun jobs => ?_⟩
    obtain ⟨disk₁, ran, finds'⟩ := sessions_file lift jobs finds
    rw [ran]
    exact ⟨rfl, rfl, finds', fun rows has => performAll_hasRows jobs has, rfl⟩

/-- A job that adds and returns an error, one that adds and panics, and one that lists. -/
def jobsSample : List (Job RepositoryError (List Record)) :=
  [.add ⟨"a", "b"⟩ fun _ => .finish (.error (.invalidData "c")),
    .add ⟨"d", "e"⟩ fun _ => .panic "f",
    .list fun records => .finish records]

theorem poisoning_jobsSample :
    (∃ s disk events, connect ":memory:" {} = (.ok s, disk, events) ∧
      let left := sessions RepositoryError.store jobsSample s disk
      left.store.close.1 = .error .poisoned ∧
        ∀ work : Work RepositoryError (List Record),
          left.store.withSession RepositoryError.store work left.disk =
            ⟨.returned (.error (.store .poisoned)), left.store, left.disk, []⟩) ∧
      ∃ s disk events, connect "a.db" {} = (.ok s, disk, events) ∧
        let left := sessions RepositoryError.store jobsSample s disk
        left.outcomes = [.returned (.error (.invalidData "c")), .panicked "f",
            .returned (.ok [⟨1, "a", "b"⟩, ⟨2, "d", "e"⟩])] ∧
          left.store.close.1 = .ok () := by
  constructor
  · have memory : Location.parse ":memory:" = .ok .memory := rfl
    have connected := connect_memory memory {}
    refine ⟨_, _, _, connected, ?_⟩
    obtain ⟨inMemory, -⟩ := poisoning (α := List Record) connected RepositoryError.store
    rcases inMemory rfl jobsSample with ⟨quiet, -⟩ | ⟨_, _, _, -, -, -, -, -, -, refused, closed⟩
    · have panics : .panicked "f" ∈
          (performAll jobsSample ⟨.database .fresh, false⟩).outcomes := .tail _ (.head _)
      cases quiet _ panics
    · exact ⟨closed, refused⟩
  · have connected : ∃ s disk events, connect "a.db" {} = (.ok s, disk, events) ∧
        s.location = .file "a.db" ∧ disk.Finds "a.db" ⟨.database .fresh, false⟩ :=
      ⟨_, _, _, rfl, rfl, .file ["a.db"] false, rfl, rfl⟩
    obtain ⟨s, disk, events, connected, file, found⟩ := connected
    obtain ⟨-, onFile⟩ := poisoning (α := List Record) connected RepositoryError.store
    obtain ⟨c, finds, ran⟩ := onFile "a.db" file
    obtain rfl := finds.unique found
    obtain ⟨outcomes, -, -, -, closed⟩ := ran jobsSample
    exact ⟨s, disk, events, connected, outcomes, closed⟩

end Store

end FractalArchive
