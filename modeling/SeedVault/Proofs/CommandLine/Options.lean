/-
The options for the program as a whole. They may stand anywhere in front of, among and behind
the arguments that are left for the command.
-/

import SeedVault.Proofs.CommandLine.Items

namespace SeedVault.CommandLine

/-- The words that are not left for the command. -/
def reserved : List String :=
  ["--config", "-c", "--help", "-h", "--version", "-V"]

/-- A part of a command line that asks neither for help nor for the version. -/
inductive Word
  | config (flag : String) (isFlag : flag = "--config" ∨ flag = "-c") (path : String)
  | other (text : String) (kept : text ∉ reserved)

namespace Word

/-- The arguments that a word is written as. -/
def spelling : Word → List String
  | config flag _ path => [flag, path]
  | other text _ => [text]

/-- The path of a configuration. -/
def path? : Word → Option String
  | config _ _ path => some path
  | other _ _ => none

/-- What is left for the command. -/
def text? : Word → Option String
  | config _ _ _ => none
  | other text _ => some text

end Word

/-- The arguments that words are written as. -/
def written (words : List Word) : List String :=
  words.flatMap Word.spelling

/-- The path that the last option for it gives. -/
def lastPath? (words : List Word) : Option String :=
  (words.filterMap Word.path?).getLast?

/-- All that is left for the command. -/
def remaining (words : List Word) : List String :=
  words.filterMap Word.text?

theorem written_config {flag : String} (isFlag : flag = "--config" ∨ flag = "-c") (path : String)
    (words : List Word) : written (.config flag isFlag path :: words) = flag :: path :: written words :=
  rfl

theorem written_other {text : String} (kept : text ∉ reserved) (words : List Word) :
    written (.other text kept :: words) = text :: written words :=
  rfl

theorem written_append (before after : List Word) :
    written (before ++ after) = written before ++ written after :=
  List.flatMap_append

/-- An option counts only if there is none after it. -/
theorem lastPath?_config {flag : String} (isFlag : flag = "--config" ∨ flag = "-c") (path : String)
    (words : List Word) :
    lastPath? (.config flag isFlag path :: words) = some ((lastPath? words).getD path) :=
  List.getLast?_cons

theorem lastPath?_append (before after : List Word) :
    lastPath? (before ++ after) = (lastPath? after).or (lastPath? before) := by
  rw [lastPath?, List.filterMap_append, List.getLast?_append]
  rfl

theorem remaining_append (before after : List Word) :
    remaining (before ++ after) = remaining before ++ remaining after :=
  List.filterMap_append

theorem options_config {flag : String} (isFlag : flag = "--config" ∨ flag = "-c") (path : String)
    (rest : List String) :
    options (flag :: path :: rest) = Options.withConfigPath path <$> options rest := by
  rw [options.eq_def]
  exact if_pos isFlag

theorem options_other {text : String} (kept : text ∉ reserved) (rest : List String) :
    options (text :: rest) = Options.withArgument text <$> options rest := by
  simp only [reserved, List.mem_cons, List.not_mem_nil, or_false, not_or] at kept
  obtain ⟨config, short, help, shortHelp, version, shortVersion⟩ := kept
  rw [options.eq_def]
  simp only [config, short, help, shortHelp, version, shortVersion, or_self, if_false]

/-- Words are taken out and left as they say. -/
theorem options_written (words : List Word) :
    options (written words) = .ok (.run (lastPath? words) (remaining words)) := by
  induction words with
  | nil => rfl
  | cons word words ih =>
      cases word with
      | config flag isFlag path =>
          rw [written_config, options_config isFlag, ih, lastPath?_config]
          rfl
      | other text kept =>
          rw [written_other, options_other kept, ih]
          rfl

theorem exists_of_map_eq_run {change : Options → Options} {found : Except UsageError Options}
    {path : Option String} {rest : List String} (keepsHelp : change .help = .help)
    (keepsVersion : change .version = .version) (read : change <$> found = .ok (.run path rest)) :
    ∃ path rest, found = .ok (.run path rest) := by
  cases found with
  | error problem => cases read
  | ok found =>
      have same : change found = .run path rest := Except.ok.inj read
      cases found with
      | help => cases keepsHelp.symm.trans same
      | version => cases keepsVersion.symm.trans same
      | run path rest => exact ⟨path, rest, rfl⟩

/-- Only words leave something for the command. -/
theorem exists_words_of_options {arguments rest : List String} {path : Option String}
    (read : options arguments = .ok (.run path rest)) : ∃ words, arguments = written words := by
  fun_induction options arguments generalizing path rest with
  | case1 => exact ⟨[], rfl⟩
  | case2 => cases read
  | case3 flag isFlag first rest ih =>
      obtain ⟨_, _, found⟩ := exists_of_map_eq_run rfl rfl read
      obtain ⟨words, rfl⟩ := ih found
      exact ⟨.config flag isFlag first :: words, rfl⟩
  | case4 => cases read
  | case5 => cases read
  | case6 text rest config help version ih =>
      obtain ⟨_, _, found⟩ := exists_of_map_eq_run rfl rfl read
      obtain ⟨words, rfl⟩ := ih found
      have kept : text ∉ reserved := by
        rw [not_or] at config help version
        simp [reserved, config, help, version]
      exact ⟨.other text kept :: words, rfl⟩

theorem options_eq_run_iff {arguments rest : List String} {path : Option String} :
    options arguments = .ok (.run path rest) ↔
      ∃ words, arguments = written words ∧ path = lastPath? words ∧ rest = remaining words := by
  constructor
  · intro read
    obtain ⟨words, rfl⟩ := exists_words_of_options read
    rw [options_written] at read
    cases read
    exact ⟨words, rfl, rfl, rfl⟩
  · rintro ⟨words, rfl, rfl, rfl⟩
    exact options_written words

/-- Some first arguments end with an option whose path is not among them. -/
def EndsInside (words : List Word) (left : List String) : Prop :=
  ∃ before flag isFlag path after, words = before ++ .config flag isFlag path :: after ∧
    left = written before ++ [flag]

theorem EndsInside.cons {words : List Word} {left : List String} (inside : EndsInside words left)
    (word : Word) : EndsInside (word :: words) (word.spelling ++ left) := by
  obtain ⟨before, flag, isFlag, path, after, rfl, rfl⟩ := inside
  exact ⟨word :: before, flag, isFlag, path, after, rfl, (List.append_assoc _ _ _).symm⟩

/-- A cut falls between two words, or between an option and its path. -/
theorem cut_cases {words : List Word} {left right : List String}
    (cut : written words = left ++ right) :
    (∃ before after, words = before ++ after ∧ left = written before ∧ right = written after) ∨
      EndsInside words left := by
  induction words generalizing left with
  | nil =>
      obtain ⟨rfl, rfl⟩ := List.append_eq_nil_iff.mp cut.symm
      exact .inl ⟨[], [], rfl, rfl, rfl⟩
  | cons word words ih =>
      have further {rest : List String} (cut : written words = rest ++ right) :
          (∃ before after, word :: words = before ++ after ∧
              word.spelling ++ rest = written before ∧ right = written after) ∨
            EndsInside (word :: words) (word.spelling ++ rest) := by
        rcases ih cut with ⟨before, after, rfl, rfl, rfl⟩ | inside
        · exact .inl ⟨word :: before, after, rfl, rfl, rfl⟩
        · exact .inr (inside.cons word)
      cases word with
      | config flag isFlag path =>
          rw [written_config] at cut
          match left with
          | [] => exact .inl ⟨[], _, rfl, rfl, cut.symm⟩
          | [_] =>
              obtain ⟨rfl, _⟩ := List.cons.inj cut
              exact .inr ⟨[], _, isFlag, path, words, rfl, rfl⟩
          | _ :: _ :: rest =>
              simp only [List.cons_append, List.cons.injEq] at cut
              obtain ⟨rfl, rfl, behind⟩ := cut
              exact further behind
      | other text kept =>
          rw [written_other] at cut
          match left with
          | [] => exact .inl ⟨[], _, rfl, rfl, cut.symm⟩
          | _ :: rest =>
              obtain ⟨rfl, behind⟩ := List.cons.inj cut
              exact further behind

/-- One more option, anywhere but between an option and its path, leaves the same arguments for the
command. Its path counts if no option comes after it. -/
theorem options_insert {words : List Word} {left right : List String} {flag path : String}
    (isFlag : flag = "--config" ∨ flag = "-c") (cut : written words = left ++ right)
    (outside : ¬ EndsInside words left) :
    options (left ++ right) = .ok (.run (lastPath? words) (remaining words)) ∧
      ∃ later behind, options right = .ok (.run later behind) ∧
        options (left ++ flag :: path :: right) =
          .ok (.run (some (later.getD path)) (remaining words)) := by
  obtain ⟨before, after, rfl, rfl, rfl⟩ := (cut_cases cut).resolve_right outside
  refine ⟨cut ▸ options_written _, lastPath? after, remaining after, options_written after, ?_⟩
  have longer := options_written (before ++ .config flag isFlag path :: after)
  rw [written_append, written_config, lastPath?_append, lastPath?_config, remaining_append] at longer
  rw [longer, remaining_append]
  rfl

/-- A command line is read by its grammar. A command and its arguments are read exactly if they are
the name of a command and items that it takes, in any order; nothing is asked for without arguments,
and everything else is refused. The options for the program as a whole are taken out wherever they
stand, and the last one counts. -/
theorem reads_by_grammar :
    (∀ arguments, parse arguments = .ok none ↔ arguments = []) ∧
    (∀ arguments asked, parse arguments = .ok (some asked) ↔ Means arguments asked) ∧
    (∀ arguments, arguments ≠ [] → (∀ asked, ¬ Means arguments asked) →
      ∃ problem, parse arguments = .error problem) ∧
    (∀ name items others asked, items.Perm others →
      items.filterMap Item.address? = others.filterMap Item.address? →
        (Means (name :: spelled items) asked ↔ Means (name :: spelled others) asked)) ∧
    (∀ arguments path rest, options arguments = .ok (.run path rest) ↔
      ∃ words, arguments = written words ∧ path = lastPath? words ∧ rest = remaining words) ∧
    ∀ words left right flag path, flag = "--config" ∨ flag = "-c" →
      written words = left ++ right → ¬ EndsInside words left →
        options (left ++ right) = .ok (.run (lastPath? words) (remaining words)) ∧
          ∃ later behind, options right = .ok (.run later behind) ∧
            options (left ++ flag :: path :: right) =
              .ok (.run (some (later.getD path)) (remaining words)) := by
  refine ⟨fun _ => parse_eq_ok_none_iff, fun _ _ => parse_eq_ok_some_iff, ?refused, ?mixed,
    fun _ _ _ => options_eq_run_iff, fun _ _ _ _ _ => options_insert⟩
  case refused =>
    intro arguments given unmeant
    cases read : parse arguments with
    | error problem => exact ⟨problem, rfl⟩
    | ok asked =>
        cases asked with
        | none => exact absurd (parse_eq_ok_none_iff.mp read) given
        | some asked => exact absurd (parse_eq_ok_some_iff.mp read) (unmeant asked)
  case mixed =>
    intro name items others asked mixed sameOrder
    rw [← parse_eq_ok_some_iff, ← parse_eq_ok_some_iff]
    exact parse_spelled_of_perm mixed sameOrder

/-- An address that is spelled like a flag is expected, a force flag before a creation is refused,
and the path of a configuration may be spelled like a call for help. -/
theorem reads_by_grammar_flags_as_values :
    parse ["unlock", "-e", "k:a", "--expect", "--force"] =
        .ok (some (.unlock (some "--force"))) ∧
      (∃ problem, parse ["create", "--force"] = .error problem) ∧
      (Means ["import", "--force", "-f"] (.importSeed true) ↔
        Means ["import", "-f", "--force"] (.importSeed true)) ∧
      options ["import", "-f"] = .ok (.run none ["import", "-f"]) ∧
      options ["import", "--config", "--help", "-f"] =
        .ok (.run (some "--help") ["import", "-f"]) := by
  obtain ⟨_, read, refused, mixed, _, inserted⟩ := reads_by_grammar
  let early : Item := .expected "-e" (.inr rfl) "k:a"
  let late : Item := .expected "--expect" (.inl rfl) "--force"
  have means : Means ["unlock", "-e", "k:a", "--expect", "--force"] (.unlock (some "--force")) :=
    @Means.mk "unlock" [early, late] _ (by decide) (by decide) (.unlock rfl)
  have unmeant (asked : Request) : ¬ Means ["create", "--force"] asked := by
    intro means
    cases (read _ _).mpr means
  let long : Item := .force "--force" (.inl rfl)
  let short : Item := .force "-f" (.inr rfl)
  let words : List Word := [.other "import" (by decide), .other "-f" (by decide)]
  have outside : ¬ EndsInside words ["import"] := by
    rintro ⟨before, flag, isFlag, _, _, _, left⟩
    have last : "import" = flag := by simpa using congrArg List.getLast? left
    rcases isFlag with rfl | rfl <;> exact absurd last (by decide)
  obtain ⟨without, later, behind, right, longer⟩ :=
    inserted words ["import"] ["-f"] "--config" "--help" (.inl rfl) rfl outside
  cases right
  exact ⟨(read _ _).mpr means, refused _ (by decide) unmeant,
    mixed "import" [long, short] [short, long] _ (.swap _ _ _) rfl, without, longer⟩

end SeedVault.CommandLine
