/-
How the program starts. It reads the settings, lets the environment win, and goes on to a command
exactly if what comes out is safe. The wallet that it then uses asks for passwords and for words of
the phrase just as the settings say, so that no source of the settings can weaken it.
-/

import SeedVault.Proofs.Challenge.Places
import SeedVault.Proofs.Command.NewPassword
import SeedVault.Proofs.Config.Effective

namespace SeedVault

/-- What a wallet demands: a least length of every new password, and a number of different words of
a new phrase, which are asked for in their order. -/
structure Wallet.Demands (wallet : Wallet (StateM Machine)) (least words : Nat) : Prop where
  checks : ∀ password confirmation analysis,
    wallet.policy.check password confirmation = .ok analysis ↔
      least ≤ password.length ∧ password = confirmation ∧ Password.analyse password = analysis
  begins : ∀ password confirmation pending machine after,
    execute (wallet.beginCreate password confirmation) machine = (.ok pending, after) →
      least ≤ password.length ∧ pending.password = password ∧
      pending.challenge.positions.length = words ∧
      pending.challenge.positions.Pairwise (· < ·) ∧
      (∀ place ∈ pending.challenge.positions, place < 12) ∧
      ∀ answers, pending.challenge.verify pending.phrase answers = true → answers.length = words
  imports : ∀ input password confirmation overwrite unlocked machine after,
    execute (wallet.importSeed input password confirmation overwrite) machine =
      (.ok unlocked, after) → least ≤ password.length
  changes : ∀ current password confirmation expected unlocked machine after,
    execute (wallet.changePassword current password confirmation expected) machine =
      (.ok unlocked, after) → least ≤ password.length
  serves : ∀ request machine answer after, request.SetsPassword →
    execute (Program.serve wallet request) machine = (answer, after) →
      answer = .ok () ∨ after.disk ≠ machine.disk →
        ∃ password, least ≤ password.length ∧ request.Chooses machine password

namespace Program

variable {arguments rest : List String} {configPath : Option String} {request : Request}
  {home : Option Path} {lookup : String → Option String} {machine after : Machine}
  {config loaded : Config}

/-- A machine on which it was told what is passed over in the filter of the log. -/
def warned (machine : Machine) (filter : String) : Machine :=
  { machine with
    warnings := machine.warnings ++ (Log.Filter.problems filter).map fun problem =>
      s!"warning: {problem.message}, ignoring it" }

theorem execute_warnOfFilter (filter : String) (machine : Machine) :
    execute (warnOfFilter filter : ExceptT ProgramError (StateM Machine) Unit) machine =
      (.ok (), warned machine filter) := by
  rw [warnOfFilter, execute_lift, warned]
  generalize Log.Filter.problems filter = problems
  induction problems generalizing machine with
  | nil =>
      rw [List.map_nil, List.append_nil]
      rfl
  | cons problem problems ih =>
      have told := ih { machine with
        warnings := machine.warnings ++ [s!"warning: {problem.message}, ignoring it"] }
      rw [List.append_assoc, List.singleton_append] at told
      exact told

theorem execute_check {ε α : Type} (asError : ε → ProgramError) (result : Except ε α) :
    execute (check asError result) machine = (result.mapError asError, machine) :=
  execute_mk_pure _ machine

/-- The program loads the settings before all else, and then it checks them. -/
theorem execute_run (options : CommandLine.options arguments = .ok (.run configPath rest))
    (parsed : CommandLine.parse rest = .ok (some request)) (home : Option Path)
    (lookup : String → Option String) (machine : Machine) :
    execute (run home arguments lookup) machine =
      match execute (Config.load home (configPath.map Path.ofText)) machine with
      | (.error cause, middle) => (.error (.config cause), middle)
      | (.ok loaded, middle) =>
        match (loaded.withEnvironment lookup).validate with
        | .error problem => (.error (.setting problem), middle)
        | .ok () => execute (serve (wallet (loaded.withEnvironment lookup)) request)
            (warned middle (loaded.withEnvironment lookup).logLevel) := by
  rw [run, options, execute_bind, execute_check]
  change execute (check .usage (CommandLine.parse rest) >>= _) machine = _
  rw [parsed, execute_bind, execute_check]
  change execute ((Config.load home (configPath.map Path.ofText)).adapt
    ProgramError.config >>= _) machine = _
  rw [execute_bind, execute_adapt]
  rcases execute (Config.load home (configPath.map Path.ofText)) machine with
    ⟨_ | loaded, middle⟩
  · rfl
  · dsimp only [Except.mapError]
    rw [execute_bind, execute_check]
    cases (loaded.withEnvironment lookup).validate with
    | error problem => rfl
    | ok _ =>
        dsimp only [Except.mapError]
        rw [execute_bind, execute_warnOfFilter]

section run

variable (options : CommandLine.options arguments = .ok (.run configPath rest))
  (parsed : CommandLine.parse rest = .ok (some request))

include options parsed

/-- A safe configuration is gone on with. -/
theorem run_of_isSafe
    (loads : execute (Config.load home (configPath.map Path.ofText)) machine =
      (.ok loaded, machine))
    (safe : (loaded.withEnvironment lookup).IsSafe) :
    execute (run home arguments lookup) machine =
      execute (serve (wallet (loaded.withEnvironment lookup)) request)
        (warned machine (loaded.withEnvironment lookup).logLevel) := by
  rw [execute_run options parsed, loads]
  dsimp only
  rw [Config.validate_eq_ok_iff.mpr safe]

/-- Every other one is the end of the program. -/
theorem run_of_not_isSafe
    (loads : execute (Config.load home (configPath.map Path.ofText)) machine =
      (.ok loaded, machine))
    (notSafe : ¬ (loaded.withEnvironment lookup).IsSafe) :
    ∃ problem, execute (run home arguments lookup) machine = (.error (.setting problem), machine) := by
  rw [execute_run options parsed, loads]
  dsimp only
  cases checked : (loaded.withEnvironment lookup).validate with
  | ok _ => exact absurd (Config.validate_eq_ok_iff.mp checked) notSafe
  | error problem => exact ⟨problem, rfl⟩

/-- So are settings that cannot be read. -/
theorem run_of_not_finds
    (notFound : ∀ settings,
      ¬ Config.Finds home (configPath.map Path.ofText) machine settings) :
    ∃ cause, execute (run home arguments lookup) machine = (.error (.config cause), machine) := by
  have kept := Config.load_preserves home (configPath.map Path.ofText) machine
  rw [execute_run options parsed]
  rcases loads : execute (Config.load home (configPath.map Path.ofText)) machine with
    ⟨cause | loaded, middle⟩
  · rw [loads] at kept
    change middle = machine at kept
    exact ⟨cause, congrArg _ kept⟩
  · obtain ⟨_, settings, finds, _⟩ := Config.load_eq_ok_iff.mp loads
    exact absurd finds (notFound settings)

end run

theorem policy_wallet (safe : config.IsSafe) :
    (wallet config : Wallet (StateM Machine)).policy = ⟨config.minPasswordLength⟩ :=
  congrArg Password.Policy.mk (Nat.max_eq_left safe.minPasswordLength)

theorem clampCount_of_isSafe (safe : config.IsSafe) :
    Challenge.clampCount config.backupCheckWords = config.backupCheckWords := by
  rw [Challenge.clampCount, Nat.max_eq_left safe.leastWords, Nat.min_eq_left safe.mostWords]

/-- The wallet of a safe configuration demands what the configuration says. -/
theorem wallet_demands (safe : config.IsSafe) :
    (wallet config : Wallet (StateM Machine)).Demands config.minPasswordLength
      config.backupCheckWords := by
  have still : (wallet config : Wallet (StateM Machine)).store.IsStill :=
    Store.file_isStill config.vaultPath
  have least : (wallet config : Wallet (StateM Machine)).policy.minLength =
      config.minPasswordLength := by
    rw [policy_wallet safe]
  refine ⟨?checks, ?begins, ?imports, ?changes, ?serves⟩
  case checks =>
    intro password confirmation analysis
    rw [Password.Policy.check_eq_ok_iff, least]
  case begins =>
    intro password confirmation pending machine after began
    obtain ⟨phrase, key, analysis, rfl⟩ := Challenge.beginCreate_pending began
    have areFor := Challenge.areFor_ofStream config.backupCheckWords (ChaCha.stream key)
    have counted := areFor.length.trans (clampCount_of_isSafe safe)
    have guarded : Guarded id ((wallet config).beginCreate password confirmation) machine _ :=
      Wallet.beginCreate_guarded still
    obtain ⟨long, _⟩ := guarded.of_ok began
    refine ⟨least ▸ long, rfl, counted, areFor.ascending, areFor.inside, ?_⟩
    intro answers right
    have lengths := congrArg List.length (eq_of_beq right)
    rw [List.length_map, List.length_map] at lengths
    rw [← counted, lengths]
    exact (List.length_map _).symm
  case imports =>
    intro input password confirmation overwrite unlocked machine after imported
    have guarded : Guarded id ((wallet config).importSeed input password confirmation overwrite)
        machine _ := Wallet.importSeed_guarded still
    obtain ⟨long, _⟩ := guarded.of_ok imported
    exact least ▸ long
  case changes =>
    intro current password confirmation expected unlocked machine after changed
    have guarded : Guarded id ((wallet config).changePassword current password confirmation
        expected) machine _ := Wallet.changePassword_guarded
    obtain ⟨long, _⟩ := guarded.of_ok changed
    exact least ▸ long
  case serves =>
    intro request machine answer after sets served done
    rcases serve_guarded still sets answer after served with
      ⟨⟨_, rfl⟩, kept⟩ | ⟨password, long, chooses⟩
    · rcases done with ⟨⟨⟩⟩ | moved
      exact absurd kept moved
    · exact ⟨password, least ▸ long, chooses⟩

/-- No source of the settings weakens the program. Whatever the file that is found says, wherever the
user is at home, and whatever is in the environment, each setting that counts is that of the environment, or else that
of the file, or else the default. If these settings are safe, the program goes on to the command,
with a wallet that demands just what they say: its policy is not raised and its number of words not
clamped, and no new password under eight characters is taken. If they are not, the program ends
there, and so it does if a file cannot be read. -/
theorem starts_only_if_safe (options : CommandLine.options arguments = .ok (.run configPath rest))
    (parsed : CommandLine.parse rest = .ok (some request)) (home : Option Path)
    (lookup : String → Option String) (machine : Machine) :
    let explicit := configPath.map Path.ofText
    (∀ settings, Config.Finds home explicit machine settings →
      ∃ loaded config : Config,
        execute (Config.load home explicit) machine = (.ok loaded, machine) ∧
        loaded.withEnvironment lookup = config ∧
        (∀ other : Config, other.IsEffective home lookup settings ↔ other = config) ∧
        (config.IsSafe →
          execute (run home arguments lookup) machine =
            execute (serve (wallet config) request) (warned machine config.logLevel) ∧
          (wallet config : Wallet (StateM Machine)).policy = ⟨config.minPasswordLength⟩ ∧
          Challenge.clampCount config.backupCheckWords = config.backupCheckWords ∧
          8 ≤ config.minPasswordLength ∧
          (wallet config : Wallet (StateM Machine)).Demands config.minPasswordLength
            config.backupCheckWords) ∧
        (¬ config.IsSafe → ∃ problem,
          execute (run home arguments lookup) machine = (.error (.setting problem), machine))) ∧
    ((∀ settings, ¬ Config.Finds home explicit machine settings) → ∃ cause,
      execute (run home arguments lookup) machine = (.error (.config cause), machine)) := by
  intro explicit
  refine ⟨?_, run_of_not_finds options parsed⟩
  intro settings finds
  have loads : execute (Config.load home explicit) machine =
      (.ok (Config.ofSettings home settings), machine) :=
    Config.load_eq_ok_iff.mpr ⟨rfl, settings, finds, rfl⟩
  refine ⟨_, _, loads, rfl, ?effective, ?proceeds, run_of_not_isSafe options parsed loads⟩
  case effective =>
    intro other
    constructor
    · intro effective
      exact effective.unique Config.isEffective_withEnvironment
    · rintro rfl
      exact Config.isEffective_withEnvironment
  case proceeds =>
    intro safe
    exact ⟨run_of_isSafe options parsed loads safe, policy_wallet safe, clampCount_of_isSafe safe,
      safe.minPasswordLength, wallet_demands safe⟩

/-- A file with an empty path and a least length of four is refused, unless the environment has
better ones. -/
theorem starts_only_if_safe_rescued :
    let text := "security = [4, 12]\n[wallet]\nvault_path = ''\n"
    let machine : Machine :=
      { disk := { start := [], nodes := [(["w.toml"], .file 0o644 (Text.utf8 text))] } }
    let arguments := ["-c", "w.toml", "create"]
    let better (name : String) : Option String :=
      List.lookup name [("AEGEN_VAULT_PATH", "v.json"), ("AEGEN_MIN_PASSWORD_LENGTH", "+10")]
    CommandLine.options arguments = .ok (.run (some "w.toml") ["create"]) ∧
    CommandLine.parse ["create"] = .ok (some .create) ∧
    (∃ config : Config, config = ⟨⟨"v.json", []⟩, "info", 10, 12⟩ ∧
      execute (run none arguments better) machine =
        execute (serve (wallet config) .create) (warned machine "info") ∧
      (wallet config : Wallet (StateM Machine)).Demands 10 12) ∧
    ∃ problem, execute (run none arguments fun _ => none) machine =
      (.error (.setting problem), machine) := by
  intro text machine arguments better
  have options : CommandLine.options arguments = .ok (.run (some "w.toml") ["create"]) := by decide
  have parsed : CommandLine.parse ["create"] = .ok (some .create) := by decide
  have document : Config.ofText none text = some ⟨⟨"", []⟩, "info", 4, 12⟩ := by decide +kernel
  have read : machine.disk.read (Path.ofText "w.toml") = .ok (Text.utf8 text) := by decide
  obtain ⟨members, settings, isDocument, given, gives⟩ := Config.ofText_eq_some_iff.mp document
  have finds : Config.Finds none (some (Path.ofText "w.toml")) machine settings :=
    .file (.inl rfl) read isDocument given
  have effective (lookup : String → Option String) :=
    @Config.isEffective_withEnvironment none lookup settings
  rw [gives] at effective
  refine ⟨options, parsed, ?rescued, ?refused⟩
  case rescued =>
    obtain ⟨found, _⟩ := starts_only_if_safe options parsed none better machine
    obtain ⟨_, config, _, _, only, proceeds, _⟩ := found settings finds
    have same := (only _).mp (effective better)
    subst same
    obtain ⟨runs, _, _, _, demands⟩ := proceeds ⟨by decide, by decide, by decide, by decide⟩
    exact ⟨_, by decide, runs, demands⟩
  case refused =>
    obtain ⟨found, _⟩ := starts_only_if_safe options parsed none (fun _ => none) machine
    obtain ⟨_, config, _, _, only, _, stops⟩ := found settings finds
    have same := (only _).mp (effective fun _ => none)
    subst same
    exact stops fun safe => absurd safe.minPasswordLength (by decide)

end Program

end SeedVault
