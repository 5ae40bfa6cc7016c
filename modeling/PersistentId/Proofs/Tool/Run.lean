import PersistentId.Proofs.Host
import PersistentId.Proofs.Ledger.Opening
import PersistentId.Proofs.Tool.Task
import PersistentId.Tool.Run

/-!
# How a run with a configuration ends

A run that is to show something reads its configuration, creates a context from it and goes through
its texts. Each of these stages may stop it, and the first that does decides how it ends.

* `held` says what a JSON file holds, whatever its bytes: an object, no object, or lists and objects
  too many inside each other (`reading_eq`).
* `Reads` gathers what is assumed of a run, and `contextOn` is what is created from a configuration.
* One lemma for each stage says how the run ends there: `Reads.ending_of_noObject`,
  `Reads.ending_of_tooDeep`, `Reads.ending_of_contextOn_error` and `Reads.ending_of_contextOn_ok`.
* `ending_by_configuration` puts them together. A fault is reported with an exit code only if it
  comes of reading the file or says that the configuration is at fault; all others escape.
-/

namespace PersistentId.Tool

open PersistentId.Action (outcome_bind_ok outcome_bind_error outcome_attempt)

/-! ## Configuration files -/

/-- What the bytes of a JSON file hold. -/
inductive Held where
  /-- An object, or null for an empty one. -/
  | config (config : Config)
  /-- No text, no JSON, or JSON that is no object. -/
  | noObject
  /-- More lists and objects inside each other than are read. -/
  | tooDeep
  deriving DecidableEq

/-- What the bytes of a JSON file hold. -/
def held (data : ByteArray) : Held :=
  match Text.decode? data with
  | none => .noObject
  | some document =>
    match Json.read document with
    | .ok .null => .config []
    | .ok (.map entries) => .config entries
    | .ok _ | .error .malformed => .noObject
    | .error _ => .tooDeep

section Reading

variable {path : String} {host : Host} {data : ByteArray}

/-- The configuration in the bytes of the file at a path. -/
def reading (path : String) (data : ByteArray) : Except Fault Config :=
  match Text.decode? data with
  | some document => Config.ofDocument path document
  | none => .error (.malformedConfig path Config.malformedText)

/-- A file that can be read is loaded from its bytes. -/
theorem outcome_load (hdata : host.files.contents path = .ok data) :
    (Config.load path).outcome host = (reading path data, host) := by
  rw [Config.load, outcome_bind_ok (outcome_attempt _ _), Host.outcome_read, hdata, reading]
  simp only [Except.bind, Host.textOf]
  cases Text.decode? data <;> rfl

theorem ofDocument_eq (hjson : Text.endsWith ".json" path = true) (document : String) :
    Config.ofDocument path document =
      match Json.read document with
      | .ok .null => .ok []
      | .ok (.map entries) => .ok entries
      | .ok _ => .error (.configNotATable path)
      | .error .malformed => .error (.malformedConfig path Config.malformedText)
      | .error flaw => .error (.tooDeep flaw.words) := by
  rw [Config.ofDocument, Config.documentValue, if_pos hjson]
  cases Json.read document with
  | error flaw => cases flaw <;> rfl
  | ok v => cases v <;> rfl

/-- What is read of a file, by what it holds. -/
theorem reading_eq (hjson : Text.endsWith ".json" path = true) (data : ByteArray) :
    match held data with
    | .config config => reading path data = .ok config
    | .noObject => ∃ fault, reading path data = .error fault ∧
        Failure.ofReading? path fault = some (.unreadableConfiguration fault)
    | .tooDeep => ∃ words, reading path data = .error (.tooDeep words) := by
  rw [held, reading]
  cases Text.decode? data with
  | none => exact ⟨_, rfl, rfl⟩
  | some document =>
    simp only [ofDocument_eq hjson]
    cases Json.read document with
    | error flaw =>
      cases flaw with
      | malformed => exact ⟨_, rfl, rfl⟩
      | deepList | deepObject => exact ⟨_, rfl⟩
    | ok v =>
      cases v with
      | null | map => rfl
      | _ => exact ⟨_, rfl, rfl⟩

theorem outcome_readConfiguration (desk : Desk)
    (hdata : desk.site.host.files.contents path = .ok data) :
    (readConfiguration path).outcome desk =
      ((reading path data).mapError fun fault => match Failure.ofReading? path fault with
        | some failure => .failure failure
        | none => .fault fault, desk) := by
  have hload : (Site.onHost (Config.load path)).outcome desk.site =
      (reading path data, desk.site) := by
    simp only [Site.onHost, Action.outcome_zoom, outcome_load hdata]
  exact Work.outcome_onSite hload

end Reading

/-! ## Runs -/

/-- A run of the tool is to show something, with a configuration file in JSON that can be read, and
without a log file. -/
structure Reads (args : List String) (environment : Option String) (host : Host) (task : Task)
    (path : String) (data : ByteArray) : Prop where
  request : ∃ options, readArguments args = .run options (some task) ∧
    Channels.logFileOf options = none ∧ configFileOf options environment = some path
  shows : task.Shows
  json : Text.endsWith ".json" path = true
  contents : host.files.contents path = .ok data

/-- The context that a configuration asks for on a host. -/
def contextOn (host : Host) (config : Config) : Except Fault Context :=
  ((Site.createContext (.map config) .nothing [] []).outcome { host }).1

/-- The desk that a run begins at. -/
def deskOn (host : Host) (output : Encoding) : Desk :=
  { site := { host }, output }

/-- The ending of a run whose task has the given result. -/
def Ending.of : Except Stop Unit → Ending
  | .ok _ => .done
  | .error stop => .stopped stop

section Runs

variable {args : List String} {environment : Option String} {host : Host} {task : Task}
  {path : String} {data : ByteArray} {config : Config} {context : Context} {fault : Fault}
  {output : Encoding}

theorem Reads.ending_eq (h : Reads args environment host task path data) :
    (execute args environment host output).ending =
      .of ((readContext path >>= task.showing).outcome (deskOn host output)).1 := by
  obtain ⟨options, hargs, hlog, hconfig⟩ := h.request
  have hopen : (openLog (Channels.ofOptions options)).outcome host = (.ok ⟨⟩, host) := by
    rw [openLog, Channels.ofOptions, hlog]
    rfl
  rw [execute, hargs]
  dsimp only
  rw [hopen]
  dsimp only
  rw [hconfig, performOn, Task.perform_eq h.shows]
  dsimp only
  rw [deskOn]
  rcases ((readContext path >>= task.showing).outcome { site := { host }, output }).1
    with stop | _ <;> rfl

/-- A run whose configuration cannot be had ends with that. -/
theorem Reads.ending_of_error (h : Reads args environment host task path data) {stop : Stop}
    {left : Desk}
    (hcontext : (readContext path).outcome (deskOn host output) = (.error stop, left)) :
    (execute args environment host output).ending = .stopped stop := by
  rw [h.ending_eq, Work.outcome_bind_error hcontext]
  rfl

theorem Reads.ending_of_noObject (h : Reads args environment host task path data)
    (output : Encoding) (hheld : held data = .noObject) :
    ∃ fault, (execute args environment host output).ending =
      .stopped (.failure (.unreadableConfiguration fault)) := by
  have hreading := reading_eq h.json data
  rw [hheld] at hreading
  obtain ⟨fault, hread, hfailure⟩ := hreading
  have hconfig := outcome_readConfiguration (deskOn host output) h.contents
  rw [hread, Except.mapError, hfailure] at hconfig
  exact ⟨fault, h.ending_of_error (Work.outcome_bind_error hconfig)⟩

theorem Reads.ending_of_tooDeep (h : Reads args environment host task path data)
    (output : Encoding) (hheld : held data = .tooDeep) :
    ∃ words, (execute args environment host output).ending =
      .stopped (.fault (.tooDeep words)) := by
  have hreading := reading_eq h.json data
  rw [hheld] at hreading
  obtain ⟨words, hread⟩ := hreading
  have hconfig := outcome_readConfiguration (deskOn host output) h.contents
  rw [hread] at hconfig
  exact ⟨words, h.ending_of_error (Work.outcome_bind_error hconfig)⟩

/-- The configuration is what the context is made of. -/
theorem Reads.outcome_readContext (h : Reads args environment host task path data)
    (output : Encoding) (hheld : held data = .config config) :
    ∃ left, left.output = output ∧ (readContext path).outcome (deskOn host output) =
      ((contextOn host config).mapError fun fault =>
        if fault.fromConfiguration then .failure (.badConfiguration fault) else .fault fault,
        left) := by
  have hread := reading_eq h.json data
  rw [hheld] at hread
  have hconfig := outcome_readConfiguration (deskOn host output) h.contents
  rw [show reading path data = .ok config from hread] at hconfig
  exact ⟨_, rfl, (Work.outcome_bind_ok hconfig).trans (Work.outcome_onSite rfl)⟩

theorem Reads.ending_of_contextOn_error (h : Reads args environment host task path data)
    (output : Encoding) (hheld : held data = .config config)
    (hcontext : contextOn host config = .error fault) :
    (execute args environment host output).ending = .stopped
      (if fault.fromConfiguration then .failure (.badConfiguration fault) else .fault fault) := by
  obtain ⟨left, -, hread⟩ := h.outcome_readContext output hheld
  rw [hcontext] at hread
  exact h.ending_of_error hread

theorem Reads.ending_of_contextOn_ok (h : Reads args environment host task path data)
    (output : Encoding) (hheld : held data = .config config)
    (hcontext : contextOn host config = .ok context) :
    (execute args environment host output).ending =
      .of (task.ending (lacking (task.finds output context) task.texts)) := by
  obtain ⟨left, hleft, hread⟩ := h.outcome_readContext output hheld
  rw [hcontext] at hread
  rw [h.ending_eq, Work.outcome_bind_ok hread, (Task.showing_endsIn h.shows context left hleft).1]

/-- The local service that a configuration asks for comes before all but the settings. -/
theorem contextOn_of_createService {settings : Settings} {site : Site}
    (hsettings :
      Settings.ofValue (Ledger.parameter config "settings" (.map [])) = .ok settings)
    (hservice : (Site.createService config).outcome { host } = (.error fault, site)) :
    contextOn host config = .error fault := by
  have hoperand : (Operand.service <$> Site.createService config).outcome { host } =
      (.error fault, site) := by
    rw [Action.outcome_map, hservice]
    rfl
  have htable : (Action.ofExcept (Value.map config).asTable : Site.Use _).outcome { host } =
      (.ok config, { host }) := rfl
  have hlookup : (Action.ofExcept (Settings.ofValue (Ledger.parameter config "settings"
      (.map []))) : Site.Use _).outcome { host } = (.ok settings, { host }) := by
    rw [hsettings]
    rfl
  have hcontext : (Site.createContext (.map config) .nothing [] []).outcome { host } =
      (.error fault, site) :=
    (outcome_bind_ok htable).trans
      ((outcome_bind_ok hlookup).trans (outcome_bind_error hoperand))
  rw [contextOn, hcontext]

end Runs

/-! ## Endings -/

namespace Ending

/-- A run fails with an exit code. -/
def FailsWith (ending : Ending) (code : Nat) : Prop :=
  ∃ failure, ending = .stopped (.failure failure) ∧ failure.exitCode = code

/-- A run is stopped by a fault that no failure stands for. -/
def Escapes (ending : Ending) (fault : Fault) : Prop :=
  ending = .stopped (.fault fault)

variable {code : Nat} {failure : Failure} {fault other : Fault}

@[simp]
theorem failsWith_failure_iff : FailsWith (.stopped (.failure failure)) code ↔
    failure.exitCode = code := by
  simp [FailsWith]

@[simp]
theorem not_failsWith_fault : ¬FailsWith (.stopped (.fault fault)) code := by
  simp [FailsWith]

@[simp]
theorem not_failsWith_done : ¬FailsWith .done code := by
  simp [FailsWith]

@[simp]
theorem escapes_fault_iff : Escapes (.stopped (.fault fault)) other ↔ fault = other := by
  simp [Escapes]

@[simp]
theorem not_escapes_failure : ¬Escapes (.stopped (.failure failure)) fault := by
  simp [Escapes]

@[simp]
theorem not_escapes_done : ¬Escapes .done fault := by
  simp [Escapes]

end Ending

variable {args : List String} {environment : Option String} {host : Host} {output : Encoding}
  {task : Task} {path : String} {data : ByteArray}

/-- **How a run with a JSON configuration ends**, whatever the file holds and the output can take.
It is done, fails with one of three exit codes, or is stopped by a fault that no failure stands for.

The exit code is 3 if and only if the file holds no object; 6 if and only if no context can be
created and the fault is one of the configuration; and 1 if and only if nothing is found for one of
the texts. All other faults escape: lists and objects too many inside each other, faults in creating
the context that are not of the configuration, all those of the local service among them, and faults
that come up with a text, one of which is that the output cannot take what is to be shown. -/
theorem ending_by_configuration (h : Reads args environment host task path data) :
    ((execute args environment host output).ending.FailsWith 3 ↔ held data = .noObject) ∧
      ((execute args environment host output).ending.FailsWith 6 ↔
        ∃ config fault, held data = .config config ∧ contextOn host config = .error fault ∧
          fault.fromConfiguration = true) ∧
      ((execute args environment host output).ending.FailsWith 1 ↔
        ∃ config context, held data = .config config ∧ contextOn host config = .ok context ∧
          task.Lacks output context) ∧
      ((execute args environment host output).ending = .done ↔
        ∃ config context, held data = .config config ∧ contextOn host config = .ok context ∧
          task.Answers output context) ∧
      ((∃ fault, (execute args environment host output).ending.Escapes fault) ↔
        held data = .tooDeep ∨
          (∃ config fault, held data = .config config ∧ contextOn host config = .error fault ∧
            fault.fromConfiguration = false) ∨
          ∃ config context, held data = .config config ∧ contextOn host config = .ok context ∧
            task.Stumbles output context) ∧
      ((execute args environment host output).ending = .done ∨
        (∃ code ∈ [1, 3, 6], (execute args environment host output).ending.FailsWith code) ∨
        ∃ fault, (execute args environment host output).ending.Escapes fault) ∧
      ∀ config settings fault site, held data = .config config →
        Settings.ofValue (Ledger.parameter config "settings" (.map [])) = .ok settings →
        (Site.createService config).outcome { host } = (.error fault, site) →
        (execute args environment host output).ending.Escapes fault := by
  have hservice : ∀ config settings fault site, held data = .config config →
      Settings.ofValue (Ledger.parameter config "settings" (.map [])) = .ok settings →
      (Site.createService config).outcome { host } = (.error fault, site) →
      (execute args environment host output).ending.Escapes fault := by
    intro config settings fault site hheld hsettings hservice
    have hspares : fault.fromConfiguration = false :=
      (Site.createService_spares config).error trivial hservice
    have hcontext := contextOn_of_createService hsettings hservice
    rw [Ending.Escapes, h.ending_of_contextOn_error output hheld hcontext, hspares]
    rfl
  -- all other parts are read off the stage that stops the run
  rw [← and_assoc, ← and_assoc, ← and_assoc, ← and_assoc, ← and_assoc]
  refine ⟨?_, hservice⟩
  cases hheld : held data with
  | noObject =>
    obtain ⟨fault, hending⟩ := h.ending_of_noObject output hheld
    simp [hending, Failure.exitCode]
  | tooDeep =>
    obtain ⟨words, hending⟩ := h.ending_of_tooDeep output hheld
    simp [hending]
  | config config =>
    cases hcontext : contextOn host config with
    | error fault =>
      have hending := h.ending_of_contextOn_error output hheld hcontext
      cases hblames : fault.fromConfiguration <;>
        simp [hending, hblames, Failure.exitCode, hcontext]
    | ok context =>
      have hending := h.ending_of_contextOn_ok output hheld hcontext
      rcases task.stumbles_or_lacks_or_answers output context with
        ⟨hstumbles, hlacks, hanswers⟩ | ⟨hstumbles, hlacks, hanswers⟩ |
        ⟨hstumbles, hlacks, hanswers⟩
      · obtain ⟨fault, htask⟩ := hstumbles.exists_ending
        simp [hending, htask, hcontext, hstumbles, hlacks, hanswers, Ending.of]
      · obtain ⟨failure, htask, hcode⟩ := hlacks.exists_ending
        simp [hending, htask, hcontext, hcode, hstumbles, hlacks, hanswers, Ending.of]
      · simp [hending, hanswers.ending_eq, hcontext, hstumbles, hlacks, hanswers, Ending.of]

/-! ## Three configurations at fault -/

/-- A host with a configuration file. -/
def configuredHost (document : String) : Host :=
  { files := { nodes := [(["pid.json"], .file document.toUTF8)] } }

/-- The arguments that ask for the providers of the configuration file, and for nothing on the error
stream. -/
def showingProviders : List String :=
  ["-q", "-c", "pid.json", "providers"]

theorem reads_configuredHost (document : String) :
    Reads showingProviders none (configuredHost document) (.providers []) "pid.json"
      document.toUTF8 where
  request := ⟨{ configFile := some "pid.json", quiet := true }, by decide +kernel,
    by decide +kernel, by decide +kernel⟩
  shows := trivial
  json := by decide +kernel
  contents := by
    have hlocate : (configuredHost document).files.locate "pid.json" =
        .ok (.entry ["pid.json"] (some (.file document.toUTF8)) false) := rfl
    rw [FileTree.contents, FileTree.reach, hlocate]
    rfl

/-- Providers that are no table. -/
def untabled : String :=
  "\x7b\"providers\": []\x7d"

/-- They are a fault of the configuration. -/
theorem ending_by_configuration_untabled :
    (execute showingProviders none (configuredHost untabled) .utf8).ending.FailsWith 6 := by
  have hheld : held untabled.toUTF8 = .config [(.str "providers", .list [])] := by decide +kernel
  have hcontext : contextOn (configuredHost untabled) [(.str "providers", .list [])] =
      .error (.providersNotATable "<class 'list'>") := rfl
  exact (ending_by_configuration (reads_configuredHost untabled)).2.1.2
    ⟨_, _, hheld, hcontext, rfl⟩

/-- A provider whose authority ends in half of a pair. -/
def halved : String :=
  "\x7b\"providers\": \x7b\"perma\": \x7b\"authority\": \"NI\\ud83d\"\x7d\x7d\x7d"

-- it is the second line about the provider that cannot be shown
example :
    let outcome := execute ["-c", "pid.json", "providers", "perma"] none
      (configuredHost halved) .utf8
    outcome.ending = .stopped (.fault (.unencodable ("'utf-8' codec can't encode character " ++
      "'\\ud83d' in position 15: surrogates not allowed"))) ∧
      outcome.printed = "perma: PERMA ()\n" := by
  decide +kernel

/-- A directory for the local service that is not there. -/
def homeless : String :=
  "\x7b\"pid_registry\": \x7b\"store_dir\": \"/nowhere\"\x7d\x7d"

/-- A configuration from which no context can be created need not fail with the exit code for
that. -/
theorem not_forall_failsWith_of_configuration :
    ¬ ∀ (args : List String) (environment : Option String) (host : Host) (output : Encoding)
      (task : Task) (path : String) (data : ByteArray), Reads args environment host task path data →
      (∀ fault, ¬(execute args environment host output).ending.Escapes fault) ∧
        ∀ config fault, held data = .config config → contextOn host config = .error fault →
          (execute args environment host output).ending.FailsWith 6 := by
  intro h
  have hheld : held homeless.toUTF8 =
      .config [(.str "pid_registry", .map [(.str "store_dir", .str "/nowhere")])] := by
    decide +kernel
  have hcontext : contextOn (configuredHost homeless)
      [(.str "pid_registry", .map [(.str "store_dir", .str "/nowhere")])] =
        .error (.notADirectory "/nowhere") := rfl
  have hreads := reads_configuredHost homeless
  have hending := hreads.ending_of_contextOn_error .utf8 hheld hcontext
  exact (h _ _ _ _ _ _ _ hreads).1 _ hending

end PersistentId.Tool
