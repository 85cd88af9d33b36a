import FractalArchive.Proofs.EnvFile.Plain
import FractalArchive.Proofs.Settings.Arguments

/-!
# Where settings come from

Every setting comes from its option if that is given, else from its variable, and a variable has the
value that the process came with, else the one that its environment file gives it first
(`precedence`).  Only a value that is taken can be refused: one behind which another stands is not
looked at.

`settings_words` gives the settings of a command line as a function of the texts in force alone, so
that the order of options and their spelling make no difference.
-/

namespace FractalArchive.CommandLine

variable {e : Environment} {g : Given}

/-! ### Lookups -/

theorem lookup_append_singleton (s : Setting) (text : String) (new : g.lookup s = none)
    (t : Setting) :
    (g ++ [(s, text)]).lookup t = if t = s then some text else g.lookup t := by
  by_cases same : t = s
  · subst same
    simp [List.lookup_append, new]
  · simp [List.lookup_append, List.lookup_cons, beq_eq_false_iff_ne.2 same, same]

theorem lookup_eq_some_iff_mem {s : Setting} {text : String} (once : (g.map Prod.fst).Nodup) :
    g.lookup s = some text ↔ (s, text) ∈ g := by
  induction g with
  | nil => simp
  | cons first rest ih =>
      obtain ⟨t, other⟩ := first
      obtain ⟨new, once⟩ := List.nodup_cons.1 once
      by_cases same : s = t
      · subst same
        have : (s, text) ∉ rest := fun mem =>
          new (List.mem_map.2 ⟨(s, text), mem, rfl⟩)
        simp [this, eq_comm]
      · simp [List.lookup_cons, beq_eq_false_iff_ne.2 same, ih once, same]

/-- The order of what is given once each makes no difference. -/
theorem lookup_perm {g' : Given} (once : (g.map Prod.fst).Nodup) (p : g'.Perm g) (s : Setting) :
    g'.lookup s = g.lookup s :=
  Option.ext fun text => by
    rw [lookup_eq_some_iff_mem once, lookup_eq_some_iff_mem ((p.map Prod.fst).nodup_iff.2 once),
      p.mem_iff]

theorem map_fst_map_meaning (os : List Occurrence) :
    (os.map Occurrence.meaning).map Prod.fst = os.map Occurrence.setting := by
  simp [Occurrence.meaning]

/-! ### Texts and refusals -/

/-- The text in force for a setting: the one given, else the value of its variable. -/
def textFor (g : Given) (e : Environment) (s : Setting) : Option String :=
  (g.lookup s).or (e.lookup s.variableName)

/-- The refusal of the value of a variable, if its setting is not given. -/
def refusal? (g : Given) (e : Environment) (s : Setting) : Option Refusal :=
  match g.lookup s with
  | some _ => none
  | none => (e.lookup s.variableName).bind fun text => (s.fault? text).map (.badValue s text)

theorem textFor_congr {g' : Given} {s : Setting} (h : g.lookup s = g'.lookup s) :
    textFor g e s = textFor g' e s := by
  rw [textFor, h, textFor]

theorem refusal?_congr {g' : Given} {s : Setting} (h : g.lookup s = g'.lookup s) :
    refusal? g e s = refusal? g' e s := by
  rw [refusal?, h, refusal?]

theorem refusal?_eq_some_iff {s : Setting} {r : Refusal} : refusal? g e s = some r ↔
    g.lookup s = none ∧ ∃ text fault, e.lookup s.variableName = some text ∧
      s.fault? text = some fault ∧ .badValue s text fault = r := by
  cases h : g.lookup s <;> simp [refusal?, h, Option.bind_eq_some_iff]

/-- A variable is not refused if its setting is given or accepts the value. -/
theorem refusal?_eq_none_iff {s : Setting} : refusal? g e s = none ↔
    (g.lookup s = none → ∀ text, e.lookup s.variableName = some text → s.Accepts text) := by
  cases h : g.lookup s <;> simp [refusal?, h, ← Setting.fault?_eq_none_iff]

/-! ### One variable -/

/-- **A variable that is refused** ends the reading. -/
theorem readVariables_of_refused {s : Setting} {r : Refusal} (h : refusal? g e s = some r)
    (rest : List Setting) : readVariables e g (s :: rest) = .error r := by
  obtain ⟨given, text, fault, value, faulty, rfl⟩ := refusal?_eq_some_iff.1 h
  simp [readVariables, enter, Given.has, given, value, faulty]

/-- **A variable that is not refused** stands for its setting from then on unless that is given; no
other setting is changed, and the same variables are refused. -/
theorem exists_readVariables_cons {s : Setting} (accepted : refusal? g e s = none)
    (rest : List Setting) :
    ∃ g₁, readVariables e g (s :: rest) = readVariables e g₁ rest ∧
      (∀ t, g₁.lookup t = if t = s then textFor g e s else g.lookup t) ∧
      refusal? g₁ e = refusal? g e := by
  -- Nothing is entered where the setting is given or the variable is not there.
  have skipped (kept : textFor g e s = g.lookup s) (t : Setting) :
      g.lookup t = if t = s then textFor g e s else g.lookup t := by
    split
    · rename_i same
      rw [same, kept]
    · rfl
  cases given : g.lookup s with
  | some text =>
      refine ⟨g, ?_, skipped (by simp [textFor, given]), rfl⟩
      simp [readVariables, Given.has, given]
  | none =>
      cases value : e.lookup s.variableName with
      | none =>
          refine ⟨g, ?_, skipped (by simp [textFor, value]), rfl⟩
          simp [readVariables, Given.has, given, value]
      | some text =>
          have entered : enter g s text = .ok (g ++ [(s, text)]) :=
            enter_of_accepted (by simp [Given.has, given])
              (refusal?_eq_none_iff.1 accepted given text value)
          have looked := lookup_append_singleton s text given
          refine ⟨g ++ [(s, text)], ?_, fun t => ?_, funext fun t => ?_⟩
          · simp [readVariables, Given.has, given, value, entered]
          · rw [looked, textFor, given, value, Option.none_or]
          · by_cases same : t = s
            · subst same
              rw [accepted, refusal?, looked, if_pos rfl]
            · exact refusal?_congr (by rw [looked, if_neg same])

/-! ### All variables -/

/-- **The first variable that is refused** ends the reading. -/
theorem readVariables_eq_error {ss : List Setting} {r : Refusal}
    (h : ss.findSome? (refusal? g e) = some r) : readVariables e g ss = .error r := by
  induction ss generalizing g with
  | nil => cases h
  | cons s rest ih =>
      rw [List.findSome?_cons] at h
      cases refused : refusal? g e s with
      | some r' =>
          obtain rfl : r' = r := by simpa [refused] using h
          exact readVariables_of_refused refused rest
      | none =>
          obtain ⟨g₁, eq, -, same⟩ := exists_readVariables_cons refused rest
          rw [eq]
          exact ih (by simpa [same, refused] using h)

/-- **Variables of which none is refused** stand for their settings unless these are given. -/
theorem exists_readVariables_eq_ok {ss : List Setting} (h : ∀ s ∈ ss, refusal? g e s = none) :
    ∃ g', readVariables e g ss = .ok g' ∧
      ∀ t, g'.lookup t = if t ∈ ss then textFor g e t else g.lookup t := by
  induction ss generalizing g with
  | nil => exact ⟨g, rfl, fun t => by simp⟩
  | cons s rest ih =>
      obtain ⟨first, more⟩ := List.forall_mem_cons.1 h
      obtain ⟨g₁, eq, looked, same⟩ := exists_readVariables_cons first rest
      obtain ⟨g', read, texts⟩ := ih (g := g₁) (by rwa [same])
      refine ⟨g', eq.trans read, fun t => ?_⟩
      by_cases here : t = s
      · subst here
        simp [texts, looked, textFor, Option.or_assoc]
      · simp [texts, looked, textFor, here]

/-! ### Settings -/

theorem mem_all (s : Setting) : s ∈ Setting.all := by
  cases s <;> decide

/-- **The settings of a command line** on which options are given once each are those that the texts
in force stand for, unless a variable is refused. -/
theorem settings_words {os : List Occurrence} (once : (os.map Occurrence.setting).Nodup)
    (e : Environment) : settings (os.flatMap Occurrence.words) e =
      match Setting.all.findSome? (refusal? (os.map Occurrence.meaning) e) with
      | some r => .error r
      | none => .ok (Settings.ofTexts (textFor (os.map Occurrence.meaning) e)) := by
  have given : readArguments [] none (os.flatMap Occurrence.words) =
      .ok (os.map Occurrence.meaning) := by
    simpa using readArguments_words (g := []) (p := none) rfl once
  rw [settings, given]
  cases h : Setting.all.findSome? (refusal? (os.map Occurrence.meaning) e) with
  | some r => simp [readVariables_eq_error h, bind, Except.bind]
  | none =>
      obtain ⟨g', read, texts⟩ := exists_readVariables_eq_ok (List.findSome?_eq_none_iff.1 h)
      have : (fun s => g'.lookup s) = textFor (os.map Occurrence.meaning) e :=
        funext fun s => by rw [texts, if_pos (mem_all s)]
      simp only [read, bind, Except.bind, this]
      rfl

/-- Settings that come follow the texts in force. -/
theorem follows_of_settings {os : List Occurrence} (once : (os.map Occurrence.setting).Nodup)
    {c : Settings} (h : settings (os.flatMap Occurrence.words) e = .ok c) :
    c.Follows (textFor (os.map Occurrence.meaning) e) := by
  rw [settings_words once] at h
  split at h
  · cases h
  · rename_i accepted
    obtain rfl := Except.ok.inj h
    refine Settings.follows_ofTexts fun s text inForce => ?_
    rcases Option.or_eq_some_iff.1 inForce with given | ⟨absent, value⟩
    · rw [lookup_eq_some_iff_mem (by rwa [map_fst_map_meaning])] at given
      obtain ⟨o, -, meaning⟩ := List.mem_map.1 given
      obtain ⟨rfl, rfl⟩ := Prod.mk.inj meaning
      exact o.accepted
    · have := List.findSome?_eq_none_iff.1 accepted s (mem_all s)
      exact refusal?_eq_none_iff.1 this absent text value

/-- No settings come if and only if the variable of a setting that is not given has a value that the
setting does not accept. -/
theorem settings_eq_error_iff {os : List Occurrence} (once : (os.map Occurrence.setting).Nodup) :
    (∃ r, settings (os.flatMap Occurrence.words) e = .error r) ↔
      ∃ s text, (os.map Occurrence.meaning).lookup s = none ∧
        e.lookup s.variableName = some text ∧ ¬ s.Accepts text := by
  rw [settings_words once]
  cases h : Setting.all.findSome? (refusal? (os.map Occurrence.meaning) e) with
  | some r =>
      obtain ⟨s, -, refused⟩ := List.exists_of_findSome?_eq_some h
      obtain ⟨absent, text, fault, value, faulty, -⟩ := refusal?_eq_some_iff.1 refused
      refine iff_of_true ⟨r, rfl⟩ ⟨s, text, absent, value, fun accepts => ?_⟩
      rw [Setting.fault?_eq_none_iff.2 accepts] at faulty
      cases faulty
  | none =>
      refine iff_of_false (fun ⟨r, refused⟩ => ?_) fun ⟨s, text, absent, value, faulty⟩ => ?_
      · cases refused
      · have := List.findSome?_eq_none_iff.1 h s (mem_all s)
        exact faulty (refusal?_eq_none_iff.1 this absent text value)

/-! ### Order -/

/-- **The order and spelling of options** make no difference, whether settings come or a refusal. -/
theorem settings_words_perm {os others : List Occurrence}
    (once : (os.map Occurrence.setting).Nodup)
    (same : (others.map Occurrence.meaning).Perm (os.map Occurrence.meaning)) (e : Environment) :
    settings (others.flatMap Occurrence.words) e = settings (os.flatMap Occurrence.words) e := by
  rw [← map_fst_map_meaning] at once
  have once' : (others.map Occurrence.setting).Nodup := by
    rw [← map_fst_map_meaning]
    exact (same.map Prod.fst).nodup_iff.2 once
  have looked := lookup_perm once same
  have refused : refusal? (others.map Occurrence.meaning) e =
      refusal? (os.map Occurrence.meaning) e :=
    funext fun s => refusal?_congr (looked s)
  have texts : textFor (others.map Occurrence.meaning) e = textFor (os.map Occurrence.meaning) e :=
    funext fun s => textFor_congr (looked s)
  rw [settings_words once', settings_words (by rwa [← map_fst_map_meaning]), refused, texts]

/-! ### Sources -/

section sources

open EnvFile (PlainFile)

variable {d : Disk} {name : String} {f : PlainFile} {os : List Occurrence}

/-- The text in force for a setting: the one of its option, else the one that its variable came
with, else the first in a file. -/
def inForce (os : List Occurrence) (e : Environment) (f : PlainFile) (s : Setting) :
    Option String :=
  ((os.map Occurrence.meaning).lookup s).or
    ((e.lookup s.variableName).or (f.assigned.lookup s.variableName))

theorem textFor_loaded (os : List Occurrence) (e : Environment) (f : PlainFile) :
    textFor (os.map Occurrence.meaning) (f.loaded e) = inForce os e f :=
  funext fun s => by rw [textFor, f.lookup_loaded, inForce]

/-- **Settings come from options, the environment, a file and defaults, in this order.**

The options are given once each, with values that their settings accept, and so are the values with
which the environment came.  Then the file is loaded, and each setting by itself follows the text in
force for it, and has its default if there is none.  Only a value of the file can be refused, and it
is if and only if neither an option nor the environment has another.  The order of the options and
their spelling make no difference. -/
theorem precedence (stored : d.readFile name = .ok (.octets f.octets))
    (prior : ∀ (s : Setting) text, e.lookup s.variableName = some text → s.Accepts text)
    (once : (os.map Occurrence.setting).Nodup) (program : String) :
    ∃ loaded, EnvFile.load d name e = (loaded, none) ∧
      let outcome (os : List Occurrence) := read (program :: os.flatMap Occurrence.words) loaded
      (∀ c, outcome os = .ok c → c.Follows (inForce os e f)) ∧
      ((∃ refusal, outcome os = .error refusal) ↔
        ∃ s text, (os.map Occurrence.meaning).lookup s = none ∧ e.lookup s.variableName = none ∧
          f.assigned.lookup s.variableName = some text ∧ ¬ s.Accepts text) ∧
      ∀ others : List Occurrence,
        (others.map Occurrence.meaning).Perm (os.map Occurrence.meaning) →
          outcome others = outcome os := by
  refine ⟨f.loaded e, EnvFile.load_plain stored e, fun c h => ?_, ?_, fun others same => ?_⟩
  · rw [← textFor_loaded]
    exact follows_of_settings once h
  · refine (settings_eq_error_iff once).trans
      (exists_congr fun s => exists_congr fun text => and_congr_right fun _ => ?_)
    rw [f.lookup_loaded, Option.or_eq_some_iff, ← and_assoc]
    -- What the environment came with is accepted, so a value that is not is the file's.
    refine and_congr_left fun faulty => ⟨?_, .inr⟩
    rintro (there | only)
    · exact absurd (prior s text there) faulty
    · exact only
  · exact settings_words_perm once same (f.loaded e)

/-- A file that names one variable twice and has values that are no port and no switch. -/
def fileSample : PlainFile :=
  ⟨[(⟨"BURRITO_PORT", "banana", by decide, by decide⟩, .lineFeed),
    (⟨"BURRITO_HOST", "0.0.0.0", by decide, by decide⟩, .carriageReturn),
    (⟨"BURRITO_HOST", "10.0.0.1", by decide, by decide⟩, .lineFeed)],
    some ⟨"BURRITO_DEBUG", "2", by decide, by decide⟩⟩

/-- Options whose values look like another option and have a sign and a zero. -/
def optionsSample : List Occurrence :=
  [.separate .logDirectory "-" rfl trivial (fun _ => rfl),
    .joined .port "+08080" rfl ⟨8080, readPort_eq_ok_iff.1 rfl⟩]

/-- The values of the file that are no port and no switch do no harm where an option and the
environment have others. -/
theorem precedence_overridden :
    let e : Environment := [("BURRITO_DEBUG", "no"), ("BURRITO_LOG_LEVEL", "warn")]
    let d : Disk := { nodes := [([".env"], .file (.octets fileSample.octets))] }
    ∃ loaded, EnvFile.load d ".env" e = (loaded, none) ∧
      read ["burrito", "--log-dir", "-", "--port=+08080"] loaded =
        .ok ⟨"sqlite:///burrito.db", false, "0.0.0.0", 8080, some "warn", some "-"⟩ := by
  intro e d
  have prior : ∀ (s : Setting) text, e.lookup s.variableName = some text → s.Accepts text := by
    intro s text value
    cases s with
    | debug =>
        have there : e.lookup "BURRITO_DEBUG" = some "no" := by decide
        obtain rfl : "no" = text := Option.some.inj (there.symm.trans value)
        exact ⟨false, readSwitch_eq_ok_iff.1 rfl⟩
    | port =>
        have absent : e.lookup "BURRITO_PORT" = none := by decide
        cases absent.symm.trans value
    | _ => trivial
  have stored : d.readFile ".env" = .ok (.octets fileSample.octets) := rfl
  have once : (optionsSample.map Occurrence.setting).Nodup := by decide
  obtain ⟨loaded, load, follows, fails, -⟩ := precedence stored prior once "burrito"
  refine ⟨loaded, load, ?_⟩
  cases outcome : read ["burrito", "--log-dir", "-", "--port=+08080"] loaded with
  | error refusal =>
      obtain ⟨s, text, given, absent, -, faulty⟩ := fails.1 ⟨refusal, outcome⟩
      cases s with
      | debug => cases absent
      | port => cases given
      | _ => exact absurd trivial faulty
  | ok c =>
      obtain ⟨url, debug, host, port, level, directory⟩ := c
      obtain ⟨rfl, switch, rfl, number, rfl, rfl⟩ := follows _ outcome
      obtain rfl : false = debug := Except.ok.inj (readSwitch_eq_ok_iff.2 switch)
      obtain rfl : 8080 = port := Except.ok.inj (readPort_eq_ok_iff.2 number)
      rfl

end sources

end FractalArchive.CommandLine
