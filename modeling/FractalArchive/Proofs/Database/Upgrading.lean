import FractalArchive.Database.Migration

/-!
# What bringing a database up to date comes to

The statements are for any registry in which the versions increase and all have a place in a
database (`Sound`), and for any database.  The migrations above the stored version are *pending*;
what counts is what their scripts make of the catalog, one after another (`pending`, `runScripts`).

* `upgrade_of_ok`, `upgrade_of_error`: between zero and the latest version, the scripts decide: they
  all take effect, or the database is left as it was;
* `upgrade_eq_ok_iff`: when an upgrade succeeds, and what it leaves; `upgradeConnection_eq_ok_iff`
  says so of a connection, which may refuse changes (`Upgrades`);
* `upgrade_outcome`: what an upgrade comes to, by the version that is stored; a second upgrade
  changes nothing, and an upgrade by a first part of the registry may come before.

A version for which a database has no place is stored as zero, and its migration is applied again
and again (`upgrade_unstorable`).
-/

namespace FractalArchive.Migration

/-- Versions increase, and a database has a place for each. -/
structure Sound (registry : List Migration) : Prop where
  increasing : registry.Pairwise fun m n => m.version < n.version
  storable : ∀ m ∈ registry, m.version.toNat ≤ 2147483647

/-- The migration of the archive, whatever its script does. -/
theorem sound_registryOf (script : Catalog → Except SqlError Catalog) :
    Sound (registryOf script) where
  increasing := List.pairwise_singleton _ _
  storable m hm := by
    obtain rfl := List.mem_singleton.mp hm
    exact (by decide : (1 : UInt32).toNat ≤ 2147483647)

theorem sound_registry : Sound registry :=
  sound_registryOf _

/-- The migrations above a version. -/
def pending (version : Int) (registry : List Migration) : List Migration :=
  registry.filter fun m => version < m.version.toNat

/-- What scripts make of a catalog, one after another. -/
def runScripts (migrations : List Migration) (c : Catalog) : Except SqlError Catalog :=
  migrations.foldlM (fun c m => m.script c) c

/-- What is stored as the version after migrations: that of the last one, or the one before. -/
def versionAfter (version : Int32) (migrations : List Migration) : Int32 :=
  match migrations.getLast? with
  | some m => Database.versionOf m.version.toNat
  | none => version

section Registries

variable {registry first rest : List Migration} {version : Int} {stored : Int32}
  {d d' : Database} {c c' : Catalog}

/-! ### Scripts -/

theorem runScripts_cons (m : Migration) (rest : List Migration) (c : Catalog) :
    runScripts (m :: rest) c = m.script c >>= runScripts rest :=
  List.foldlM_cons

/-- Scripts that all succeed are those of a first part and then those of the rest. -/
theorem runScripts_append_eq_ok :
    runScripts (first ++ rest) c = .ok c' ↔
      ∃ between, runScripts first c = .ok between ∧ runScripts rest between = .ok c' := by
  unfold runScripts
  rw [List.foldlM_append]
  cases List.foldlM (fun c m => m.script c) c first with
  | error e =>
      constructor
      · intro h
        cases h
      · rintro ⟨_, h, -⟩
        cases h
  | ok between =>
      constructor
      · intro h
        exact ⟨between, rfl, h⟩
      · rintro ⟨_, h, h'⟩
        cases h
        exact h'

theorem versionAfter_cons (stored : Int32) (m : Migration) (rest : List Migration) :
    versionAfter stored (m :: rest) =
      versionAfter (Database.versionOf m.version.toNat) rest := by
  unfold versionAfter
  rw [List.getLast?_cons]
  cases rest.getLast? with
  | none => rfl
  | some last => rfl

/-! ### Versions -/

theorem latest_concat (init : List Migration) (last : Migration) :
    latest (init ++ [last]) = last.version.toNat := by
  simp [latest]

namespace Sound

/-- The last version is the greatest. -/
theorem le_latest (h : Sound registry) : ∀ m ∈ registry, m.version.toNat ≤ latest registry := by
  intro m hm
  rcases List.eq_nil_or_concat registry with rfl | ⟨init, last, rfl⟩
  · cases hm
  rw [List.concat_eq_append] at h hm ⊢
  rw [latest_concat]
  rcases List.mem_append.mp hm with hm | hm
  · have lt := (List.pairwise_append.mp h.increasing).2.2 m hm last List.mem_cons_self
    exact Nat.le_of_lt (UInt32.lt_iff_toNat_lt.mp lt)
  · exact Nat.le_of_eq (congrArg (·.version.toNat) (List.mem_singleton.mp hm))

/-- A database has a place for the last version. -/
theorem latest_le (h : Sound registry) : latest registry ≤ 2147483647 := by
  rcases List.eq_nil_or_concat registry with rfl | ⟨init, last, rfl⟩
  · decide
  · rw [List.concat_eq_append] at h ⊢
    rw [latest_concat]
    exact h.storable last (by simp)

/-- What is stored as the last version is that version. -/
theorem toInt_latest (h : Sound registry) :
    (Database.versionOf (latest registry)).toInt = latest registry := by
  have := h.latest_le
  exact Database.toInt_versionOf (by omega) (by omega)

theorem of_append (h : Sound (first ++ rest)) : Sound first where
  increasing := (List.pairwise_append.mp h.increasing).1
  storable m hm := h.storable m (List.mem_append_left rest hm)

end Sound

/-- No migration is above the last version. -/
theorem pending_latest (h : Sound registry) : pending (latest registry) registry = [] := by
  refine List.filter_eq_nil_iff.mpr fun m hm => ?_
  have := h.le_latest m hm
  simp only [decide_eq_true_eq]
  omega

/-- The pending migrations end at the last version. -/
theorem versionAfter_pending (h : Sound registry) (nonneg : 0 ≤ stored.toInt)
    (le : stored.toInt ≤ latest registry) :
    (versionAfter stored (pending stored.toInt registry)).toInt = latest registry := by
  by_cases e : stored.toInt = latest registry
  · rw [e, pending_latest h]
    exact e
  have toInt := h.toInt_latest
  rcases List.eq_nil_or_concat registry with rfl | ⟨init, last, rfl⟩
  · have : latest [] = 0 := rfl
    omega
  · rw [List.concat_eq_append, latest_concat] at le e toInt ⊢
    have above : stored.toInt < last.version.toNat := by omega
    simpa [versionAfter, pending, above] using toInt

/-! ### One upgrade -/

theorem pending_cons (current : Nat) (m : Migration) (rest : List Migration) :
    pending current (m :: rest) =
      if m.version.toNat ≤ current then pending current rest
      else m :: pending current rest := by
  unfold pending
  by_cases skipped : m.version.toNat ≤ current
  · rw [if_pos skipped, List.filter_cons_of_neg (by simpa using skipped)]
  · rw [if_neg skipped, List.filter_cons_of_pos (by simpa using skipped)]

/-- The scripts of the pending migrations decide what applying them comes to. -/
theorem applyPending_outcome (current : Nat) (registry : List Migration) (d : Database) :
    (applyPending current registry d).outcome =
      (runScripts (pending current registry) d.catalog).map fun c =>
        ⟨versionAfter d.version (pending current registry), c⟩ := by
  induction registry generalizing d with
  | nil => rfl
  | cons m rest ih =>
      rw [applyPending, pending_cons]
      split
      · exact ih d
      · rw [runScripts_cons, versionAfter_cons]
        cases m.script d.catalog with
        | error e => rfl
        | ok catalog => exact ih ⟨Database.versionOf m.version.toNat, catalog⟩

/-- Migrations that all succeed are reported, each once and in order. -/
theorem applied_of_ok {current : Nat} (h : (applyPending current registry d).outcome = .ok d') :
    (applyPending current registry d).applied =
      (pending current registry).map fun m => m.version.toNat := by
  induction registry generalizing d with
  | nil => rfl
  | cons m rest ih =>
      rw [applyPending] at h ⊢
      rw [pending_cons]
      split at h
      next skipped =>
        rw [if_pos skipped, if_pos skipped]
        exact ih h
      next new =>
        rw [if_neg new, if_neg new]
        cases done : m.script d.catalog with
        | error e =>
            rw [done] at h
            cases h
        | ok catalog =>
            rw [done] at h
            exact congrArg (m.version.toNat :: ·) (ih h)

theorem upgrade_of_negative (registry : List Migration) (h : d.userVersion < 0) :
    upgrade registry d = (.error (.sql (.integerOutOfRange d.userVersion 0)), d, []) := by
  unfold upgrade storedVersion
  rw [if_pos h]

theorem upgrade_of_newer (h : latest registry < d.userVersion) :
    upgrade registry d =
      (.error (.newerSchema d.userVersion.toNat (latest registry)), d, []) := by
  unfold upgrade storedVersion
  rw [if_neg (by omega)]
  exact if_pos (by omega)

theorem upgrade_of_latest (h : d.userVersion = latest registry) :
    upgrade registry d = (.ok (), d, []) := by
  unfold upgrade storedVersion
  rw [if_neg (by omega)]
  simp only
  rw [if_neg (by omega), if_pos (by omega)]

/-- Below the last version the pending migrations are applied, and a failure undoes them. -/
theorem upgrade_of_lt (nonneg : 0 ≤ d.userVersion) (lt : d.userVersion < latest registry) :
    upgrade registry d = match applyPending d.userVersion.toNat registry d with
      | ⟨.ok d', applied⟩ => (.ok (), d', applied)
      | ⟨.error e, applied⟩ => (.error (.sql e), d, applied) := by
  unfold upgrade storedVersion
  rw [if_neg (by omega)]
  simp only
  rw [if_neg (by omega)]
  exact if_neg (by omega)

/-- **Scripts that all succeed** take effect, each once and in order, and the last version is
stored. -/
theorem upgrade_of_ok (h : Sound registry) (nonneg : 0 ≤ d.userVersion)
    (le : d.userVersion ≤ latest registry)
    (succeeds : runScripts (pending d.userVersion registry) d.catalog = .ok c) :
    ∃ d', upgrade registry d =
        (.ok (), d', (pending d.userVersion registry).map fun m => m.version.toNat) ∧
      d'.userVersion = latest registry ∧ d'.catalog = c := by
  by_cases same : d.userVersion = latest registry
  · rw [same, pending_latest h] at succeeds ⊢
    cases succeeds
    exact ⟨d, upgrade_of_latest same, same, rfl⟩
  · have outcome := applyPending_outcome d.userVersion.toNat registry d
    rw [Int.toNat_of_nonneg nonneg, succeeds] at outcome
    have applied := applied_of_ok outcome
    refine ⟨⟨versionAfter d.version (pending d.userVersion registry), c⟩, ?_,
      versionAfter_pending h nonneg le, rfl⟩
    rw [upgrade_of_lt nonneg (by omega)]
    cases report : applyPending d.userVersion.toNat registry d with
    | mk result versions =>
        rw [report] at outcome applied
        rw [Int.toNat_of_nonneg nonneg] at applied
        subst outcome applied
        rfl

/-- **A script that fails** leaves the database as it was. -/
theorem upgrade_of_error (h : Sound registry) (nonneg : 0 ≤ d.userVersion)
    (le : d.userVersion ≤ latest registry) {e : SqlError}
    (fails : runScripts (pending d.userVersion registry) d.catalog = .error e) :
    ∃ applied, upgrade registry d = (.error (.sql e), d, applied) := by
  have lt : d.userVersion < latest registry := by
    rcases Int.lt_or_eq_of_le le with lt | same
    · exact lt
    · rw [same, pending_latest h] at fails
      cases fails
  have outcome := applyPending_outcome d.userVersion.toNat registry d
  rw [Int.toNat_of_nonneg nonneg, fails] at outcome
  rw [upgrade_of_lt nonneg lt]
  cases report : applyPending d.userVersion.toNat registry d with
  | mk result versions =>
      rw [report] at outcome
      subst outcome
      exact ⟨versions, rfl⟩

/-- **An upgrade succeeds** when the stored version is none above the last one and the scripts of
the pending migrations do; then it leaves what they make of the catalog, in the last version. -/
theorem upgrade_eq_ok_iff (h : Sound registry) {applied : List Nat} :
    upgrade registry d = (.ok (), d', applied) ↔
      (0 ≤ d.userVersion ∧ d.userVersion ≤ latest registry) ∧
        runScripts (pending d.userVersion registry) d.catalog = .ok d'.catalog ∧
        d'.userVersion = latest registry ∧
        applied = (pending d.userVersion registry).map fun m => m.version.toNat := by
  constructor
  · intro success
    have nonneg : 0 ≤ d.userVersion := Int.not_lt.mp fun negative => by
      rw [upgrade_of_negative registry negative] at success
      cases success
    have le : d.userVersion ≤ latest registry := Int.not_lt.mp fun newer => by
      rw [upgrade_of_newer newer] at success
      cases success
    cases scripts : runScripts (pending d.userVersion registry) d.catalog with
    | error e =>
        obtain ⟨_, failure⟩ := upgrade_of_error h nonneg le scripts
        rw [failure] at success
        cases success
    | ok c =>
        obtain ⟨d', upgraded, version, rfl⟩ := upgrade_of_ok h nonneg le scripts
        rw [upgraded] at success
        cases success
        exact ⟨⟨nonneg, le⟩, rfl, version, rfl⟩
  · rintro ⟨⟨nonneg, le⟩, scripts, version, rfl⟩
    obtain ⟨left, upgraded, version', catalog⟩ := upgrade_of_ok h nonneg le scripts
    rw [upgraded, Database.eq_of_userVersion (version'.trans version.symm) catalog]

/-! ### Connections -/

/-- On a connection that may change its database, the upgrade is that of the database. -/
theorem upgradeConnection_of_upgrade {outcome : Except StoreError Unit} {applied : List Nat}
    (h : upgrade registry d = (outcome, d', applied)) :
    upgradeConnection registry ⟨.database d, false⟩ =
      (outcome, ⟨.database d', false⟩, applied) := by
  unfold upgradeConnection
  simp only [h]
  rfl

/-- An upgrade that applies nothing leaves any connection as it is. -/
theorem upgradeConnection_of_nil {outcome : Except StoreError Unit} {readOnly : Bool}
    (h : upgrade registry d = (outcome, d, [])) :
    upgradeConnection registry ⟨.database d, readOnly⟩ =
      (outcome, ⟨.database d, readOnly⟩, []) := by
  unfold upgradeConnection
  simp only [h]
  split
  · rfl
  · rfl

/-- A database can be brought up to date and then is another one: the scripts of the pending
migrations succeed, and none is pending where changes are refused. -/
structure Upgrades (registry : List Migration) (readOnly : Bool) (d d' : Database) : Prop where
  nonneg : 0 ≤ d.userVersion
  le : d.userVersion ≤ latest registry
  scripts : runScripts (pending d.userVersion registry) d.catalog = .ok d'.catalog
  version : d'.userVersion = latest registry
  allowed : readOnly = true → pending d.userVersion registry = []

theorem upgrade_of_upgrades (h : Sound registry) {readOnly : Bool}
    (up : Upgrades registry readOnly d d') : upgrade registry d =
      (.ok (), d', (pending d.userVersion registry).map fun m => m.version.toNat) :=
  (upgrade_eq_ok_iff h).mpr ⟨⟨up.nonneg, up.le⟩, up.scripts, up.version, rfl⟩

/-- Where nothing is pending, the database is up to date as it is. -/
theorem Upgrades.eq_of_nil (h : Sound registry) {readOnly : Bool}
    (up : Upgrades registry readOnly d d') (none : pending d.userVersion registry = []) :
    d' = d := by
  have scripts := up.scripts
  have version : (versionAfter d.version (pending d.userVersion registry)).toInt =
      latest registry := versionAfter_pending h up.nonneg up.le
  rw [none] at scripts version
  exact Database.eq_of_userVersion (up.version.trans version.symm) (Except.ok.inj scripts).symm

/-- **A connection is brought up to date** when its database can be, and then holds what that
leaves. -/
theorem upgradeConnection_eq_ok_iff (h : Sound registry) {c c' : Connection}
    {applied : List Nat} : upgradeConnection registry c = (.ok (), c', applied) ↔
      ∃ d d', c.contents = .database d ∧ Upgrades registry c.readOnly d d' ∧
        c' = ⟨.database d', c.readOnly⟩ ∧
        applied = (pending d.userVersion registry).map fun m => m.version.toNat := by
  obtain ⟨contents, readOnly⟩ := c
  constructor
  · intro success
    cases contents with
    | octets _ | unreadable _ => cases success
    | database d =>
    cases report : upgrade registry d with
    | mk outcome left =>
    obtain ⟨d', versions⟩ := left
    cases readOnly with
    | false =>
        rw [upgradeConnection_of_upgrade report] at success
        cases success
        obtain ⟨⟨nonneg, le⟩, scripts, version, rfl⟩ := (upgrade_eq_ok_iff h).mp report
        exact ⟨d, d', rfl, ⟨nonneg, le, scripts, version, nofun⟩, rfl, rfl⟩
    | true =>
        unfold upgradeConnection at success
        simp only [report, if_true] at success
        cases versions with
        | cons _ _ => cases success
        | nil =>
            cases success
            obtain ⟨⟨nonneg, le⟩, scripts, version, none⟩ := (upgrade_eq_ok_iff h).mp report
            have up : Upgrades registry true d d' :=
              ⟨nonneg, le, scripts, version, fun _ => List.map_eq_nil_iff.mp none.symm⟩
            obtain rfl := up.eq_of_nil h (up.allowed rfl)
            exact ⟨d', d', rfl, up, rfl, none⟩
  · rintro ⟨d, d', rfl, up, rfl, rfl⟩
    have upgraded := upgrade_of_upgrades h up
    cases readOnly with
    | false => exact upgradeConnection_of_upgrade upgraded
    | true =>
        have none := up.allowed rfl
        obtain rfl := up.eq_of_nil h none
        rw [none] at upgraded ⊢
        exact upgradeConnection_of_nil upgraded

/-- An upgrade that succeeds leaves a database in the last version, and the connection may change it
as before. -/
theorem upgradeConnection_eq_ok (h : Sound registry) {c c' : Connection}
    {applied : List Nat} (upgraded : upgradeConnection registry c = (.ok (), c', applied)) :
    ∃ d', c' = ⟨.database d', c.readOnly⟩ ∧ d'.userVersion = latest registry := by
  obtain ⟨d, d', -, up, rfl, -⟩ := (upgradeConnection_eq_ok_iff h).mp upgraded
  exact ⟨d', rfl, up.version⟩

/-- Where one migration is all there is, its failure comes before its report. -/
theorem applyPending_of_error (one : registry.length ≤ 1) {current : Nat} {e : SqlError}
    (fails : (applyPending current registry d).outcome = .error e) :
    (applyPending current registry d).applied = [] := by
  match registry, one with
  | [], _ => rfl
  | [m], _ =>
      rw [applyPending] at fails ⊢
      by_cases skipped : m.version.toNat ≤ current
      · rw [if_pos skipped]
        rfl
      · rw [if_neg skipped] at fails ⊢
        cases done : m.script d.catalog with
        | error _ => rfl
        | ok catalog =>
            rw [done] at fails
            cases fails

/-- An upgrade that fails leaves the database as it was, and reports nothing where one migration is
all there is. -/
theorem upgrade_failed (one : registry.length ≤ 1) {cause : StoreError} {applied : List Nat}
    (fails : upgrade registry d = (.error cause, d', applied)) : d' = d ∧ applied = [] := by
  unfold upgrade at fails
  split at fails
  · cases fails
    exact ⟨rfl, rfl⟩
  split at fails
  · cases fails
    exact ⟨rfl, rfl⟩
  split at fails
  · cases fails
  split at fails
  · cases fails
  next current _ _ _ e versions report =>
    cases fails
    have none := applyPending_of_error (d := d) one (congrArg Report.outcome report)
    rw [report] at none
    exact ⟨rfl, none⟩

/-- **An upgrade that fails** leaves the connection as it was, and reports nothing where one
migration is all there is. -/
theorem upgradeConnection_failed (one : registry.length ≤ 1) {c c' : Connection}
    {cause : StoreError} {applied : List Nat}
    (fails : upgradeConnection registry c = (.error cause, c', applied)) :
    c' = c ∧ applied = [] := by
  obtain ⟨contents, readOnly⟩ := c
  cases contents with
  | octets _ | unreadable _ =>
      cases fails
      exact ⟨rfl, rfl⟩
  | database d =>
  cases report : upgrade registry d with
  | mk outcome left =>
  obtain ⟨d', versions⟩ := left
  cases readOnly with
  | false =>
      rw [upgradeConnection_of_upgrade report] at fails
      cases fails
      obtain ⟨rfl, none⟩ := upgrade_failed one report
      exact ⟨rfl, none⟩
  | true =>
      unfold upgradeConnection at fails
      simp only [report, if_true] at fails
      cases versions with
      | nil =>
          cases fails
          exact ⟨rfl, rfl⟩
      | cons _ _ =>
          cases fails
          exact ⟨rfl, rfl⟩

/-! ### Several upgrades -/

/-- Above the last version of a first part, what is pending is what is pending of the rest. -/
theorem pending_append (h : Sound (first ++ rest)) (nonneg : 0 ≤ version)
    (le : version ≤ latest first) :
    pending (latest first) (first ++ rest) = pending version rest := by
  unfold pending
  have none : first.filter (fun m => (latest first : Int) < m.version.toNat) = [] :=
    pending_latest h.of_append
  rw [List.filter_append, none, List.nil_append]
  refine List.filter_congr fun m hm => ?_
  rcases List.eq_nil_or_concat first with rfl | ⟨init, last, rfl⟩
  · have : latest [] = 0 := rfl
    have : version = 0 := by omega
    rw [this]
    rfl
  · rw [List.concat_eq_append] at h le ⊢
    rw [latest_concat] at le ⊢
    have lt := (List.pairwise_append.mp h.increasing).2.2 last (by simp) m hm
    have := UInt32.lt_iff_toNat_lt.mp lt
    simp only [decide_eq_decide]
    omega

theorem latest_le_append (h : Sound (first ++ rest)) :
    latest first ≤ latest (first ++ rest) := by
  rcases List.eq_nil_or_concat first with rfl | ⟨init, last, rfl⟩
  · exact Nat.zero_le _
  · rw [List.concat_eq_append] at h ⊢
    rw [latest_concat]
    exact h.le_latest last (by simp)

/-- **An upgrade by a first part** of the registry may come before the upgrade by all of it: the
database and the reports are the same. -/
theorem upgrade_append (h : Sound (first ++ rest)) {applied : List Nat}
    (le : d.userVersion ≤ latest first)
    (success : upgrade (first ++ rest) d = (.ok (), d', applied)) :
    ∃ between before after, upgrade first d = (.ok (), between, before) ∧
      upgrade (first ++ rest) between = (.ok (), d', after) ∧ applied = before ++ after := by
  obtain ⟨⟨nonneg, -⟩, scripts, version, rfl⟩ := (upgrade_eq_ok_iff h).mp success
  have parts : pending d.userVersion (first ++ rest) =
      pending d.userVersion first ++ pending d.userVersion rest := List.filter_append ..
  rw [parts] at scripts ⊢
  obtain ⟨between, scripts, more⟩ := runScripts_append_eq_ok.mp scripts
  have left := pending_append h nonneg le
  obtain ⟨d₁, upgraded, version₁, rfl⟩ := upgrade_of_ok h.of_append nonneg le scripts
  refine ⟨d₁, _, _, upgraded, ?_, List.map_append⟩
  rw [upgrade_eq_ok_iff h, version₁, left]
  have := latest_le_append h
  exact ⟨⟨by simp, by simpa using this⟩, more, version, rfl⟩

/-- **What an upgrade comes to**, for any registry in which the versions increase and a database has
a place for each.  By the version that is stored: below zero and above the last version it is
refused; at the last version nothing is done; in between the pending scripts take effect, each once
and in order, and the last version is stored, or one of them fails and the database stays as it was.
After a success a second upgrade changes nothing, and any first part of the registry that reaches
the stored version may have been applied before. -/
theorem upgrade_outcome (h : Sound registry) (d : Database) :
    (d.userVersion < 0 → ∃ cause, upgrade registry d = (.error (.sql cause), d, [])) ∧
    (latest registry < d.userVersion → upgrade registry d =
      (.error (.newerSchema d.userVersion.toNat (latest registry)), d, [])) ∧
    (d.userVersion = latest registry → upgrade registry d = (.ok (), d, [])) ∧
    (0 ≤ d.userVersion → d.userVersion < latest registry →
      (∀ c, runScripts (pending d.userVersion registry) d.catalog = .ok c →
        ∃ d', upgrade registry d =
            (.ok (), d', (pending d.userVersion registry).map fun m => m.version.toNat) ∧
          d'.userVersion = latest registry ∧ d'.catalog = c) ∧
      ∀ e, runScripts (pending d.userVersion registry) d.catalog = .error e →
        ∃ applied, upgrade registry d = (.error (.sql e), d, applied)) ∧
    ∀ d' applied, upgrade registry d = (.ok (), d', applied) →
      upgrade registry d' = (.ok (), d', []) ∧
      ∀ first rest, registry = first ++ rest → d.userVersion ≤ latest first →
        ∃ between before after, upgrade first d = (.ok (), between, before) ∧
          upgrade registry between = (.ok (), d', after) ∧ applied = before ++ after := by
  refine ⟨fun negative => ⟨_, upgrade_of_negative registry negative⟩, upgrade_of_newer,
    upgrade_of_latest, fun nonneg lt => ⟨fun c succeeds => ?_, fun e fails => ?_⟩,
    fun d' applied success => ⟨?_, ?_⟩⟩
  · exact upgrade_of_ok h nonneg (Int.le_of_lt lt) succeeds
  · exact upgrade_of_error h nonneg (Int.le_of_lt lt) fails
  · obtain ⟨-, -, version, -⟩ := (upgrade_eq_ok_iff h).mp success
    exact upgrade_of_latest version
  · rintro first rest rfl le
    exact upgrade_append h le success

end Registries

/-- The migrations of the archive with a later one, which drops the table again. -/
def longerSample : List Migration :=
  registry ++ [⟨3, Catalog.drop⟩]

theorem upgrade_outcome_longerSample :
    upgrade longerSample {} = (.ok (), ⟨3, {}⟩, [1, 3]) ∧
      upgrade longerSample ⟨3, {}⟩ = (.ok (), ⟨3, {}⟩, []) ∧
      (∃ cause, upgrade longerSample ⟨-1, {}⟩ = (.error (.sql cause), ⟨-1, {}⟩, [])) ∧
      upgrade longerSample ⟨4, {}⟩ = (.error (.newerSchema 4 3), ⟨4, {}⟩, []) ∧
      ∃ between before after, upgrade registry {} = (.ok (), between, before) ∧
        upgrade longerSample between = (.ok (), ⟨3, {}⟩, after) ∧ [1, 3] = before ++ after := by
  have sound : Sound longerSample := by
    refine ⟨List.pairwise_append.mpr
      ⟨sound_registry.increasing, List.pairwise_singleton _ _, by decide⟩, ?_⟩
    simp [longerSample, registry, registryOf]
  obtain ⟨-, -, -, between, again⟩ := upgrade_outcome sound {}
  obtain ⟨d, success, version, catalog⟩ := (between (by decide) (by decide)).1 {} rfl
  obtain rfl : d = ⟨3, {}⟩ := Database.eq_of_userVersion version catalog
  obtain ⟨same, parts⟩ := again _ _ success
  exact ⟨success, same, (upgrade_outcome sound ⟨-1, {}⟩).1 (by decide),
    (upgrade_outcome sound ⟨4, {}⟩).2.1 (by decide), parts registry _ rfl (by decide)⟩

/-- The migration of the archive under a version for which a database has no place. -/
def unstorableSample : List Migration :=
  [⟨2147483648, Catalog.defineIfAbsent⟩]

/-- A migration of such a version succeeds, and the version stored is zero, not its own; so the next
upgrade applies it again. -/
theorem upgrade_unstorable :
    (unstorableSample.Pairwise fun m n => m.version < n.version) ∧
      (∀ m ∈ unstorableSample, 0 < m.version) ∧
      (0 ≤ ({} : Database).userVersion ∧ ({} : Database).userVersion < latest unstorableSample) ∧
      ∃ d, upgrade unstorableSample {} = (.ok (), d, [2147483648]) ∧
        d.userVersion = 0 ∧ d.userVersion ≠ latest unstorableSample ∧
        upgrade unstorableSample d = (.ok (), d, [2147483648]) :=
  ⟨List.pairwise_singleton _ _, by decide, by decide, _, rfl, by decide, by decide, rfl⟩

end FractalArchive.Migration
