/-
# TypeLens.Proofs.CommandLine.Overrides -- options that override settings act like the environment

Some options of the command line stand in for variables of the environment. Their values are written
to the environment before a session is started, and the session knows nothing of the command line. So
a command line with such options does what the same command line without them does in the
environment that the first one leaves behind, and a command line that is refused writes nothing.

Two facts carry this. Reading the environment undoes the writing: the settings that a session starts
with are those of the old environment with the overrides laid over them
(`Invocation.ofEnvironment_override`). And a session none of whose parts exists yet answers for the
architecture that those settings resolve to (`Untouched.current`), whichever part is asked first.

How the arguments are read does not matter here: the results hold for every way of reading a command
line, `read` among them.
-/
import TypeLens.CommandLine.Run
import TypeLens.Proofs.Session.Stateless

namespace TypeLens

/-! ## Reading what was written -/

/-- Environments with the same values are the same. -/
theorem Environment.ext_get? {x y : Environment} (h : ∀ v, x.get? v = y.get? v) : x = y := by
  cases x
  cases y
  simp only [Environment.mk.injEq]
  exact ⟨h .architecture, h .intellisenseMode, h .showArchitecture, h .cacheEnabled,
    h .cacheMaxSize⟩

namespace Settings

theorem readMode_name (m : Mode) : readMode (some m.name) = m := by
  cases m <;> decide

theorem readSwitch_false : readSwitch (some "false".toList) = false := by decide

end Settings

namespace CommandLine

namespace Invocation

/-- The value that an invocation gives to a variable. -/
def override? (i : Invocation) : Variable → Option Text
  | .architecture => i.mode.map Mode.name
  | .intellisenseMode => i.intellisenseMode
  | .showArchitecture => if i.hideArchitecture then some "false".toList else none
  | .cacheEnabled | .cacheMaxSize => none

/-- Settings with those of an invocation laid over them. -/
def onto (i : Invocation) (settings : Settings) : Settings :=
  { settings with
    mode := i.mode.getD settings.mode
    descriptor := i.intellisenseMode.or settings.descriptor
    showArchitecture := settings.showArchitecture && !i.hideArchitecture }

/-- Exactly the variables to which the invocation gives a value are overwritten. -/
theorem get?_override (i : Invocation) (env : Environment) (v : Variable) :
    (i.override env).get? v = (i.override? v).or (env.get? v) := by
  cases v with
  | architecture => rfl
  | intellisenseMode => rfl
  | showArchitecture =>
    simp only [override, override?, Environment.get?]
    cases i.hideArchitecture <;> rfl
  | cacheEnabled => rfl
  | cacheMaxSize => rfl

/-- An invocation that overrides nothing leaves the environment as it is. -/
theorem override_of_none {i : Invocation} (h : ∀ v, i.override? v = none) (env : Environment) :
    i.override env = env := by
  apply Environment.ext_get?
  intro v
  rw [get?_override, h v, Option.none_or]

/-- A session that is started after the overrides were written has them in its settings. -/
theorem ofEnvironment_override (i : Invocation) (env : Environment) :
    Settings.ofEnvironment (i.override env) = i.onto (Settings.ofEnvironment env) := by
  have hmode : Settings.readMode ((i.mode.map Mode.name).or env.architecture) =
      i.mode.getD (Settings.readMode env.architecture) := by
    cases i.mode with
    | none => rfl
    | some m => exact Settings.readMode_name m
  have hdescriptor : some ((i.intellisenseMode.or env.intellisenseMode).getD []) =
      i.intellisenseMode.or (some (env.intellisenseMode.getD [])) := by
    cases i.intellisenseMode <;> rfl
  have hshow : Settings.readSwitch
      (if i.hideArchitecture then some "false".toList else env.showArchitecture) =
        (Settings.readSwitch env.showArchitecture && !i.hideArchitecture) := by
    cases i.hideArchitecture with
    | false => rw [if_neg (by decide), Bool.not_false, Bool.and_true]
    | true => rw [if_pos rfl, Settings.readSwitch_false, Bool.not_true, Bool.and_false]
  rw [Settings.ofEnvironment, Settings.ofEnvironment, onto, override, hmode, hdescriptor, hshow]

/-! ## Performing an invocation -/

/-- Two invocations ask for the same, apart from settings. -/
structure SameTask (i j : Invocation) : Prop where
  printConfig : j.printConfig = i.printConfig
  transport : j.transport = i.transport
  host : j.host = i.host
  portNumber : j.portNumber = i.portNumber
  path : j.path = i.path

/-- What an invocation does when certain settings are in force. It either prints them with the label
that they resolve to, or it registers the tools, logs that label and runs one service. -/
structure Performed (i : Invocation) (host : Host) (settings : Settings) (outcome : Outcome) :
    Prop where
  exitCode : outcome.exitCode = none
  prints : i.printConfig = true → outcome.tools = [] ∧ outcome.services = [] ∧
    outcome.stdout = settingsText settings (Architecture.resolve host settings).label ∧
    outcome.stderr = []
  serves : i.printConfig = false → outcome.tools = tools ∧ outcome.tools.length = 5 ∧
    outcome.services = [i.service] ∧ outcome.stdout = [] ∧
    outcome.stderr = registeredLine ++
      Session.logLine ("Architecture: ".toList ++ (Architecture.resolve host settings).label)

theorem untouched_start (host : Host) (env : Environment) (home : Place) :
    (Session.start host env home).Untouched :=
  ⟨rfl, rfl, rfl, rfl⟩

theorem service_congr {i j : Invocation} (h : i.SameTask j) : j.service = i.service := by
  rw [service, h.transport, h.host, h.portNumber, h.path, service]

/-- Only the task of an invocation counts once its overrides have been written. -/
theorem perform_congr {i j : Invocation} (h : i.SameTask j) (host : Host) (env : Environment) :
    j.perform host env = i.perform host env := by
  rw [perform, h.printConfig, service_congr h, perform]

theorem env_perform (i : Invocation) (host : Host) (env : Environment) :
    (i.perform host env).env = env := by
  unfold perform
  dsimp only
  split
  · rfl
  · rfl

/-- The settings in force are those that the environment describes. -/
theorem performed_perform (i : Invocation) (host : Host) (env : Environment) :
    i.Performed host (Settings.ofEnvironment env) (i.perform host env) := by
  have hcurrent := (untouched_start host env []).current
  have hlabel : (Session.start host env []).architecture =
      Architecture.resolve host (Settings.ofEnvironment env) := hcurrent.architecture_eq
  cases hprint : i.printConfig with
  | true =>
    -- only the engine is asked, and it looks up its resolver for this
    have hdone : i.perform host env = ⟨none, settingsText (Settings.ofEnvironment env)
        (Session.start host env []).needLink.architecture.label, [], [], [], env⟩ := by
      simp only [perform, hprint, if_true]
      rfl
    rw [Session.architecture_needLink, hlabel] at hdone
    rw [hdone]
    exact ⟨rfl, fun _ => ⟨rfl, rfl, rfl, rfl⟩, fun h => by simp [hprint] at h⟩
  | false =>
    -- starting up resolves the architecture once more, from the same settings
    have hdone : i.perform host env =
        ⟨none, [], registeredLine ++ (Session.start host env []).startUp.2, tools, [i.service],
          env⟩ := by
      simp only [perform, hprint, Bool.false_eq_true, if_false]
    rw [hcurrent.startUp_eq, ← hcurrent.architecture_eq_world, hlabel] at hdone
    rw [hdone]
    exact ⟨rfl, fun h => by simp [hprint] at h, fun _ => ⟨rfl, rfl, rfl, rfl, rfl⟩⟩

end Invocation

/-! ## Running a command line -/

section

variable (parse : List Text → Except UsageError Request) (host : Host) (env : Environment)

theorem runBy_of_run {arguments : List Text} {i : Invocation}
    (h : parse arguments = .ok (.run i)) :
    runBy parse host env arguments = i.perform host (i.override env) := by
  rw [runBy, h]

/-- **A command line that asks for no run has no effect but its output.** -/
theorem runBy_of_exit {arguments : List Text} (h : ∀ i, parse arguments ≠ .ok (.run i)) :
    (runBy parse host env arguments).exitCode.isSome ∧
      (runBy parse host env arguments).env = env ∧
      (runBy parse host env arguments).tools = [] ∧
      (runBy parse host env arguments).services = [] := by
  cases hread : parse arguments with
  | error e => simp only [runBy, hread, Option.isSome_some, and_self]
  | ok request =>
    cases request with
    | help => simp only [runBy, hread, Option.isSome_some, and_self]
    | run i => exact absurd hread (h i)

/-- **Options that override settings act like variables of the environment.** A command line that
is refused or asks for help leaves the environment as it is, registers no tool and runs no service.
Any other one leaves behind the environment with exactly the variables overwritten that its options
stand for, and it prints or serves with the settings of the old environment under its overrides. In
the environment that it leaves behind, every command line that overrides nothing and asks for the
same has the same outcome. -/
theorem runBy_eq_in_overridden (arguments : List Text) :
    ((∀ i, parse arguments ≠ .ok (.run i)) →
      (runBy parse host env arguments).exitCode.isSome ∧
        (runBy parse host env arguments).env = env ∧
        (runBy parse host env arguments).tools = [] ∧
        (runBy parse host env arguments).services = []) ∧
    ∀ i, parse arguments = .ok (.run i) →
      (∀ v, (runBy parse host env arguments).env.get? v = (i.override? v).or (env.get? v)) ∧
      i.Performed host (i.onto (Settings.ofEnvironment env)) (runBy parse host env arguments) ∧
      ∀ arguments' j, parse arguments' = .ok (.run j) → (∀ v, j.override? v = none) →
        i.SameTask j →
        runBy parse host (runBy parse host env arguments).env arguments' =
          runBy parse host env arguments := by
  refine ⟨runBy_of_exit parse host env, ?_⟩
  intro i hi
  have hrun := runBy_of_run parse host env hi
  have henv : (runBy parse host env arguments).env = i.override env := by
    rw [hrun, i.env_perform]
  refine ⟨?_, ?_, ?_⟩
  · intro v
    rw [henv, i.get?_override]
  · rw [hrun, ← i.ofEnvironment_override]
    exact i.performed_perform host (i.override env)
  · intro arguments' j hj hnone htask
    rw [henv, runBy_of_run parse host _ hj, j.override_of_none hnone, hrun,
      Invocation.perform_congr htask]

end

/-- Options that override two settings, and the request to print them. -/
def overriding : List Text :=
  ["--architecture", "x32", "--hide-architecture", "--print-config"].map String.toList

/-- Two options that override settings, one of them with a mode that does not exist. -/
def misspelled : List Text :=
  ["--hide-architecture", "--architecture", "x128"].map String.toList

/-- In a process that is configured for 64 bits, an unknown mode changes nothing. Known ones are
written to the environment, and the settings printed there without options are the same. -/
theorem run_overriding :
    let host : Host := ⟨"x86_64".toList, .bits64⟩
    let env : Environment := { architecture := some "x64".toList }
    let overridden : Environment :=
      { architecture := some "x32".toList, showArchitecture := some "false".toList }
    (run host env misspelled).env = env ∧
      (run host env overriding).env = overridden ∧
      (run host env overriding).stdout =
        settingsText ⟨.x32, some [], false, true, 1000⟩ "x32 (manual)".toList ∧
      run host overridden ["--print-config".toList] = run host env overriding := by
  intro host env overridden
  have hrefused : ∀ i, read misspelled ≠ .ok (.run i) := by
    have hread : read misspelled =
        .error (.invalidChoice .architecture "x128".toList (Mode.all.map Mode.name)) := rfl
    simp [hread]
  obtain ⟨hvalues, hdone, hagain⟩ := (runBy_eq_in_overridden read host env overriding).2
    { mode := some .x32, hideArchitecture := true, printConfig := true } rfl
  have henv : (run host env overriding).env = overridden := by
    apply Environment.ext_get?
    intro v
    refine (hvalues v).trans ?_
    cases v <;> rfl
  have hsettings : Settings.ofEnvironment env = ⟨.x64, some [], true, true, 1000⟩ := by
    decide +kernel
  rw [hsettings] at hdone
  refine ⟨((runBy_eq_in_overridden read host env misspelled).1 hrefused).2.1, henv,
    (hdone.prints rfl).2.2.1, ?_⟩
  rw [← henv]
  exact hagain ["--print-config".toList] { printConfig := true } rfl (fun v => by cases v <;> rfl)
    ⟨rfl, rfl, rfl, rfl, rfl⟩

end CommandLine

end TypeLens
