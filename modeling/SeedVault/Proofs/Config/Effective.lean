/-
The settings that count in the end. The environment wins over the file, and the file over the
defaults; only what comes out of this is checked, and the check refuses every configuration that
would weaken the passwords or the backup check.
-/

import SeedVault.Proofs.Config.Sources

namespace SeedVault

namespace Path

/-- Only the path without a text is empty. -/
theorem isEmpty_iff {path : Path} : path.isEmpty = true ↔ path.text = "" := by
  obtain ⟨first, others⟩ := path
  rw [isEmpty, text, Bool.and_eq_true, decide_eq_true_iff, List.isEmpty_iff]
  cases others with
  | nil => simp
  | cons part others =>
      constructor
      · rintro ⟨_, ⟨⟩⟩
      · intro empty
        have chars := congrArg String.toList empty
        rw [String.toList_intercalate, List.map_cons, List.map_cons,
          List.intercalate_cons_cons] at chars
        simp at chars

theorem intercalate_cut (separator : Char) (chars : List Char) :
    [separator].intercalate ((Text.cut separator chars).1 :: (Text.cut separator chars).2) =
      chars := by
  induction chars with
  | nil => rfl
  | cons char rest ih =>
      rw [Text.cut]
      generalize Text.cut separator rest = found at ih
      obtain ⟨part, parts⟩ := found
      dsimp only at ih ⊢
      split
      · rename_i same
        rw [List.intercalate_cons_cons, ih, same]
        rfl
      · cases parts with
        | nil =>
            rw [List.intercalate_singleton] at ih ⊢
            rw [ih]
        | cons next parts =>
            rw [List.intercalate_cons_cons] at ih ⊢
            rw [← ih]
            rfl

/-- A path keeps the text that it is made of. -/
theorem text_ofText (content : String) : (ofText content).text = content := by
  have kept : String.toList ∘ String.ofList = id := by
    funext chars
    exact String.toList_ofList
  have cut := intercalate_cut '/' content.toList
  rw [← String.toList_inj, text, String.toList_intercalate, ofText, Text.parts]
  generalize Text.cut '/' content.toList = found at cut ⊢
  obtain ⟨part, parts⟩ := found
  dsimp only at cut ⊢
  simp only [List.map_cons, List.map_map, kept, List.map_id, String.toList_ofList]
  exact cut

end Path

namespace Config

/-- Every setting is that of the environment, or else that of the file, or else the default. A
minimum length in the environment that is no count is passed over. -/
structure IsEffective (home : Option Path) (lookup : String → Option String) (settings : Settings)
    (config : Config) : Prop where
  vaultPath : config.vaultPath =
    (((lookup "AEGEN_VAULT_PATH").or settings.vaultPath).map Path.ofText).getD
      ((directory home).join "vault.json")
  vaultText : config.vaultPath.text =
    ((lookup "AEGEN_VAULT_PATH").or settings.vaultPath).getD
      ((directory home).join "vault.json").text
  logLevel : config.logLevel = ((lookup "AEGEN_LOG_LEVEL").or settings.logLevel).getD "info"
  counted : ∀ text ∈ lookup "AEGEN_MIN_PASSWORD_LENGTH", ∀ count, IsCount text count →
    config.minPasswordLength = count
  uncounted : (∀ text ∈ lookup "AEGEN_MIN_PASSWORD_LENGTH", ∀ count, ¬ IsCount text count) →
    config.minPasswordLength = settings.minPasswordLength.getD 8
  backupCheckWords : config.backupCheckWords = settings.backupCheckWords.getD 3

variable {home : Option Path} {lookup : String → Option String} {settings : Settings}
  {config : Config}

theorem isEffective_withEnvironment :
    ((ofSettings home settings).withEnvironment lookup).IsEffective home lookup settings := by
  have path : ((ofSettings home settings).withEnvironment lookup).vaultPath =
      (((lookup "AEGEN_VAULT_PATH").or settings.vaultPath).map Path.ofText).getD
        ((directory home).join "vault.json") := by
    rw [withEnvironment, ofSettings]
    cases lookup "AEGEN_VAULT_PATH" <;> rfl
  refine ⟨path, ?text, ?level, ?counted, ?uncounted, rfl⟩
  case text =>
    rw [path]
    cases (lookup "AEGEN_VAULT_PATH").or settings.vaultPath with
    | none => rfl
    | some text => exact Path.text_ofText text
  case level =>
    rw [withEnvironment, ofSettings]
    cases lookup "AEGEN_LOG_LEVEL" <;> rfl
  case counted =>
    intro text present count isCount
    rw [withEnvironment, Option.mem_def.mp present, Option.bind_some,
      countOfText?_eq_some_iff.mpr isCount]
    rfl
  case uncounted =>
    intro none
    have passedOver : (lookup "AEGEN_MIN_PASSWORD_LENGTH").bind countOfText? = Option.none := by
      rw [Option.bind_eq_none_iff]
      intro text present
      rw [Option.eq_none_iff_forall_ne_some]
      intro count read
      exact none text present count (countOfText?_eq_some_iff.mp read)
    rw [withEnvironment, passedOver]
    rfl

/-- The sources decide every setting. -/
theorem IsEffective.unique {other : Config} (effective : config.IsEffective home lookup settings)
    (otherEffective : other.IsEffective home lookup settings) : config = other := by
  have length : config.minPasswordLength = other.minPasswordLength := by
    by_cases isCount : ∃ text ∈ lookup "AEGEN_MIN_PASSWORD_LENGTH", ∃ count, IsCount text count
    · obtain ⟨text, present, count, isCount⟩ := isCount
      rw [effective.counted text present count isCount,
        otherEffective.counted text present count isCount]
    · have none : ∀ text ∈ lookup "AEGEN_MIN_PASSWORD_LENGTH", ∀ count, ¬ IsCount text count :=
        fun text present count found => isCount ⟨text, present, count, found⟩
      rw [effective.uncounted none, otherEffective.uncounted none]
  cases config
  rw [Config.mk.injEq]
  exact ⟨effective.vaultPath.trans otherEffective.vaultPath.symm,
    effective.logLevel.trans otherEffective.logLevel.symm, length,
    effective.backupCheckWords.trans otherEffective.backupCheckWords.symm⟩

/-- A configuration that keeps the program safe. -/
structure IsSafe (config : Config) : Prop where
  vaultPath : config.vaultPath.text ≠ ""
  minPasswordLength : 8 ≤ config.minPasswordLength
  leastWords : 1 ≤ config.backupCheckWords
  mostWords : config.backupCheckWords ≤ 12

/-- Exactly the safe configurations pass the check. -/
theorem validate_eq_ok_iff : config.validate = .ok () ↔ config.IsSafe := by
  have nonEmpty : config.vaultPath.isEmpty = false ↔ config.vaultPath.text ≠ "" := by
    rw [Ne, ← Path.isEmpty_iff, Bool.not_eq_true]
  rw [validate, Password.leastLength]
  constructor
  · intro passed
    split at passed
    · cases passed
    · rename_i filled
      split at passed
      · cases passed
      · rename_i long
        split at passed
        · cases passed
        · rename_i few
          exact ⟨nonEmpty.mp (Bool.eq_false_iff.mpr filled), by omega, by omega, by omega⟩
  · rintro ⟨filled, long, least, most⟩
    rw [if_neg (by simp [nonEmpty.mpr filled]), if_neg (by omega), if_neg (by omega)]

end Config

end SeedVault
