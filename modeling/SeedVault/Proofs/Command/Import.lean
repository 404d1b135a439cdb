/-
Importing a seed at the terminal. The early check of the typed line refuses exactly the lines
that the wallet would not resolve because they are mistyped phrases, and an import that succeeds
leaves the resolved seed under the typed password.
-/

import SeedVault.Proofs.Command.Outcome
import SeedVault.Proofs.Seed
import SeedVault.Proofs.Store.Holding
import SeedVault.Proofs.Store.Privacy

namespace SeedVault

namespace Wallet

variable {σ : Type} [Entropy (StateM σ)] {wallet : Wallet (StateM σ)}
  {input password confirmation : String} {overwrite : Bool} {state after : σ}

/-- How an import ends. The only problem of the text itself is that it is not resolved, and a seed
that is resolved is sealed and stored at the very end. -/
inductive ImportEnds (wallet : Wallet (StateM σ)) (input password : String) (after : σ) :
    Except WalletError UnlockedWallet → Prop
  | refused {problem : WalletError} : (∀ cause, problem ≠ .seed cause) →
      ImportEnds wallet input password after (.error problem)
  | unresolved {cause : SeedError} : Seed.resolve input = .error cause →
      ImportEnds wallet input password after (.error (.seed cause))
  | stored {seed : Seed} {vault : Vault} {middle : σ} : Seed.resolve input = .ok seed →
      vault.IsSeal (seed, password) → execute (wallet.store.put vault) middle = (.ok (), after) →
        ImportEnds wallet input password after (.ok ⟨seed, .tagged⟩)

/-- After the checks of the store and of the password, an import resolves the text. -/
theorem importSeed_ends {answer : Except WalletError UnlockedWallet}
    (ran : execute (wallet.importSeed input password confirmation overwrite) state =
      (answer, after)) : ImportEnds wallet input password after answer := by
  -- What follows the question whether a vault may be replaced.
  have checked {state : σ}
      (ran : execute (do
        let _ ← wallet.checkPassword password confirmation
        let seed ← ExceptT.mk (pure ((Seed.resolve input).mapError .seed))
        wallet.lockAndStore seed password
        return (⟨seed, .tagged⟩ : UnlockedWallet)) state = (answer, after)) :
      ImportEnds wallet input password after answer := by
    rcases execute_bind_cases ran with ⟨_, rfl, refused⟩ | ⟨_, _, _, ran⟩
    · obtain ⟨refused, _⟩ := Prod.mk.inj refused
      obtain ⟨cause, rfl, _⟩ := mapError_eq_error_iff.mp refused
      exact .refused (by simp)
    cases resolved : Seed.resolve input with
    | error cause =>
        rw [resolved] at ran
        cases ran
        exact .unresolved resolved
    | ok seed =>
        rw [resolved] at ran
        rcases execute_bind_cases ran with ⟨_, _, failed⟩ | ⟨_, _, found, ran⟩
        · cases failed
        cases found
        rcases execute_bind_cases ran with ⟨problem, rfl, failed⟩ | ⟨_, _, stored, ran⟩
        · refine .refused ?_
          rintro cause rfl
          rcases exists_of_lockAndStore_eq_error failed with ⟨_, ⟨⟩⟩ | ⟨_, ⟨⟩⟩
        · cases ran
          obtain ⟨vault, middle, isSeal, put⟩ := exists_of_lockAndStore_eq_ok stored
          exact .stored resolved isSeal put
  unfold importSeed at ran
  cases overwrite with
  | true => exact checked ran
  | false =>
      rcases execute_bind_cases ran with ⟨_, rfl, failed⟩ | ⟨isThere, _, _, ran⟩
      · obtain ⟨failed, _⟩ := Prod.mk.inj ((execute_hasVault_eq wallet state).symm.trans failed)
        cases got : (execute wallet.store.get state).1 with
        | error cause =>
            rw [got] at failed
            cases failed
            exact .refused (by simp)
        | ok found =>
            rw [got] at failed
            cases failed
      · cases isThere with
        | true =>
            cases ran
            exact .refused (by simp)
        | false => exact checked ran

/-- An import that complains about the text could not resolve it. -/
theorem resolve_of_importSeed_eq_error {cause : SeedError}
    (failed : execute (wallet.importSeed input password confirmation overwrite) state =
      (.error (.seed cause), after)) : Seed.resolve input = .error cause := by
  cases importSeed_ends failed with
  | refused other => exact absurd rfl (other cause)
  | unresolved resolved => exact resolved

end Wallet

namespace Command

/-- A line is refused at once exactly if it cannot be resolved for the same reason. -/
theorem rejects_iff {line : String} {problem : PhraseError} :
    Rejects line problem ↔ Seed.resolve line = .error (.phrase problem) := by
  rw [Rejects, Seed.isPhraseShaped_trim]
  by_cases shaped : Seed.isPhraseShaped line = true
  · rw [Seed.resolve_of_isPhraseShaped shaped, and_iff_right shaped]
    cases Phrase.ofText line <;> simp
  · refine iff_of_false (fun rejects => shaped rejects.1) ?_
    intro failed
    have denoted := Seed.resolve_denoted line
    rw [failed] at denoted
    generalize words : Text.words line = found at denoted
    cases denoted with
    | rejected several =>
        rw [← words] at several
        exact shaped (decide_eq_true several)

/-- What an import does with a line that is not refused. -/
def importLine {m : Type → Type} [Monad m] [Terminal m] [Entropy m] (wallet : Wallet m)
    (line : String) (overwrite : Bool) : ExceptT CommandError m Unit := do
  let password ← askSecret "New vault password:"
  let confirmation ← askSecret "Confirm password:"
  let unlocked ← (wallet.importSeed line password confirmation overwrite).adapt importFailure
  say s!"Wallet imported: {unlocked.address.text}"

/-- The prompt for what is imported. -/
def importPrompt : String :=
  "Recovery phrase, seed hex or secret:" ++ " "

/-- The prompts of an import that come after the line is checked. -/
def importSecrets : List String :=
  ["New vault password:", "Confirm password:"]

section

variable {wallet : Wallet (StateM Machine)} {overwrite : Bool} {machine after : Machine}
  {line : String} {rest : List UInt8} {answer : Except CommandError Unit}

/-- A line that is resolved to a bad phrase is all that is asked for, and every other line is
imported. -/
theorem execute_importSeed_of_types (typed : Types machine.input line rest) :
    execute (importSeed wallet overwrite) machine =
      match Seed.resolve line with
      | .error (.phrase problem) =>
          (.error (.phraseRejected (.phrase problem)), machine.exchange importPrompt rest)
      | _ => execute (importLine wallet line overwrite) (machine.exchange importPrompt rest) := by
  rcases ran : execute (importSeed wallet overwrite) machine with ⟨answer, after⟩
  rw [importSeed, execute_bind, execute_ask_of_types typed] at ran
  rcases execute_rejection ran with ⟨problem, rejects, rfl, rfl⟩ | ⟨accepted, ran⟩
  · rw [rejects_iff.mp rejects]
    rfl
  · split
    · rename_i problem resolved
      exact absurd (rejects_iff.mpr resolved) (accepted problem)
    · exact ran.symm

/-- A line that is not refused is imported under the passwords that are typed. -/
theorem importLine_cases
    (ran : execute (importLine wallet line overwrite) machine = (answer, after)) :
    (∃ cause, answer = .error (.terminal cause)) ∨
      ∃ password confirmation asked,
        TypesSecrets importSecrets machine [password, confirmation] asked ∧
        ((∃ cause, answer = .error (importFailure cause) ∧
            execute (wallet.importSeed line password confirmation overwrite) asked =
              (.error cause, after)) ∨
          ∃ unlocked middle, answer = .ok () ∧
            execute (wallet.importSeed line password confirmation overwrite) asked =
              (.ok unlocked, middle) ∧
            after = middle.write (s!"Wallet imported: {unlocked.address.text}" ++ "\n")) := by
  rcases execute_askSecret_bind_cases ran with ⟨cause, rfl, _⟩ | ⟨password, first, typed, ran⟩
  · exact .inl ⟨cause, rfl⟩
  rcases execute_askSecret_bind_cases ran with ⟨cause, rfl, _⟩ | ⟨confirmation, asked, again, ran⟩
  · exact .inl ⟨cause, rfl⟩
  refine .inr ⟨password, confirmation, asked, .answer typed (.answer again .nothing), ?_⟩
  rcases execute_bind_cases ran with ⟨_, rfl, stopped⟩ | ⟨unlocked, middle, passed, ran⟩
  · obtain ⟨cause, rfl, failed⟩ := execute_adapt_eq_error_iff.mp stopped
    exact .inl ⟨cause, rfl, failed⟩
  · rw [execute_say] at ran
    cases ran
    exact .inr ⟨unlocked, middle, rfl, execute_adapt_eq_ok_iff.mp passed, rfl⟩

/-- Whatever is typed, an import ends at the first prompt, refuses the line, or goes on with it. -/
theorem importSeed_cases
    (ran : execute (importSeed wallet overwrite) machine = (answer, after)) :
    (∃ cause, answer = .error (.terminal cause)) ∨
      ∃ line rest, Types machine.input line rest ∧
        ((∃ problem, Seed.resolve line = .error (.phrase problem) ∧
            answer = .error (.phraseRejected (.phrase problem)) ∧
            after = machine.exchange importPrompt rest) ∨
          (∀ problem, Seed.resolve line ≠ .error (.phrase problem)) ∧
            execute (importLine wallet line overwrite) (machine.exchange importPrompt rest) =
              (answer, after)) := by
  rcases execute_ask_bind_cases ran with ⟨cause, rfl, _⟩ | ⟨line, rest, typed, _⟩
  · exact .inl ⟨cause, rfl⟩
  refine .inr ⟨line, rest, typed, ?_⟩
  rw [execute_importSeed_of_types typed] at ran
  split at ran
  · rename_i problem resolved
    cases ran
    exact .inl ⟨problem, resolved, rfl, rfl⟩
  · rename_i other
    exact .inr ⟨other, ran⟩

end

end Command

/-- A store answers that it has a vault. -/
def Store.Gives (store : Store (StateM Machine)) (machine : Machine) (vault : Vault) : Prop :=
  execute store.get machine = (.ok (some vault), machine)

/-- A file has the text of a vault, and a store of that file answers it if the program may read it. -/
def Store.Records (path : Path) (machine : Machine) (vault : Vault) : Prop :=
  ∃ location mode text, machine.disk.find path = .ok (location, .file mode (Text.utf8 text)) ∧
    Vault.ofText text = .ok vault ∧
    (machine.disk.mayRead mode = true → (file path).Gives machine vault)

/-- A vault that is put into a store is kept there in some way, whatever is written on the terminal
meanwhile. -/
def Store.Keeps (store : Store (StateM Machine)) (keeping : Machine → Vault → Prop) : Prop :=
  ∀ vault machine after text, execute (store.put vault) machine = (.ok (), after) →
    keeping (after.write text) vault

theorem Store.memory_keeps : (memory : Store (StateM Machine)).Keeps (Gives memory) := by
  rintro vault machine _ text ⟨⟩
  rfl

/-- A vault is found again at every path at which it could be put. -/
theorem Store.file_keeps (path : Path) : (file path : Store (StateM Machine)).Keeps (Records path) := by
  intro vault machine after text put
  have found := find_of_writeFile_eq_ok (execute_adapt_eq_ok_iff.mp put)
  have states := ofText_prettyText_newline vault
  refine ⟨_, _, _, found, states, fun mayRead => ?_⟩
  exact readFile_of_text (FileTree.read_eq_ok_iff.mpr ⟨_, _, found, mayRead⟩) states

namespace Command

section

variable {wallet : Wallet (StateM Machine)} {overwrite : Bool} {machine after : Machine}

/-- The line is refused at once exactly if it is resolved to a bad phrase. -/
theorem importSeed_rejected_iff {cause : SeedError} :
    execute (importSeed wallet overwrite) machine = (.error (.phraseRejected cause), after) ↔
      ∃ line rest problem, Types machine.input line rest ∧
        Seed.resolve line = .error (.phrase problem) ∧ cause = .phrase problem ∧
        after = machine.exchange importPrompt rest := by
  constructor
  · intro ran
    rcases importSeed_cases ran with ⟨_, ⟨⟩⟩ | ⟨line, rest, typed, rejected | ⟨_, ran⟩⟩
    · obtain ⟨problem, resolved, ⟨⟩, rfl⟩ := rejected
      exact ⟨line, rest, problem, typed, resolved, rfl, rfl⟩
    · rcases importLine_cases ran with ⟨_, ⟨⟩⟩ | ⟨_, _, _, _, ⟨cause, same, _⟩ | ⟨_, _, ⟨⟩, _⟩⟩
      cases cause <;> cases same
  · rintro ⟨line, rest, problem, typed, resolved, rfl, rfl⟩
    rw [execute_importSeed_of_types typed, resolved]

/-- An import that succeeds leaves the seed of the typed line under the typed password, and shows
its address. -/
theorem exists_of_importSeed_eq_ok {keeping : Machine → Vault → Prop}
    (keeps : wallet.store.Keeps keeping)
    (ran : execute (importSeed wallet overwrite) machine = (.ok (), after)) :
    ∃ line rest password confirmation asked seed vault, ∃ middle : Machine,
      Types machine.input line rest ∧
      TypesSecrets importSecrets (machine.exchange importPrompt rest) [password, confirmation]
        asked ∧
      Seed.resolve line = .ok seed ∧
      keeping after vault ∧
      vault.unlock password = .ok seed ∧
      after = middle.write ("Wallet imported: " ++ (KeyPair.derive seed).address.text ++ "\n") := by
  rcases importSeed_cases ran with ⟨_, ⟨⟩⟩ | ⟨line, rest, typed, ⟨_, _, ⟨⟩, _⟩ | ⟨_, ran⟩⟩
  rcases importLine_cases ran with
    ⟨_, ⟨⟩⟩ | ⟨password, confirmation, asked, secrets, ⟨_, ⟨⟩, _⟩ | ⟨_, middle, _, passed, rfl⟩⟩
  cases Wallet.importSeed_ends passed with
  | stored resolved isSeal put =>
      exact ⟨line, rest, password, confirmation, asked, _, _, middle, typed, secrets, resolved,
        keeps _ _ _ _ put, isSeal.unlock, rfl⟩

end

/-- The early check of an import agrees with the wallet. Before a password is asked for, the line
is refused exactly if the wallet would resolve it to a bad phrase, and for that reason; after that
no import fails for such a reason. An import that succeeds leaves the resolved seed under the typed
password in the store, in whatever way it keeps a vault, be it in memory or in a file, and shows the
address of the seed. -/
theorem importSeed_refuses_as_resolved (wallet : Wallet (StateM Machine)) (overwrite : Bool)
    (machine : Machine) :
    (∀ cause after,
      execute (importSeed wallet overwrite) machine = (.error (.phraseRejected cause), after) ↔
        ∃ line rest problem, Types machine.input line rest ∧
          Seed.resolve line = .error (.phrase problem) ∧ cause = .phrase problem ∧
          after = machine.exchange importPrompt rest) ∧
    (∀ cause, (CommandError.phraseRejected cause).chain =
      ["Recovery phrase rejected", cause.message]) ∧
    (∀ line rest, Types machine.input line rest →
      (∀ problem, Seed.resolve line ≠ .error (.phrase problem)) →
        execute (importSeed wallet overwrite) machine =
            execute (importLine wallet line overwrite) (machine.exchange importPrompt rest) ∧
          ∀ password confirmation problem state after,
            execute (wallet.importSeed line password confirmation overwrite) state ≠
              (.error (.seed (.phrase problem)), after)) ∧
    (∀ problem after, execute (importSeed wallet overwrite) machine ≠
      (.error (.wallet (.seed (.phrase problem))), after)) ∧
    (∀ keeping, wallet.store.Keeps keeping → ∀ after,
      execute (importSeed wallet overwrite) machine = (.ok (), after) →
        ∃ line rest password confirmation asked seed vault, ∃ middle : Machine,
          Types machine.input line rest ∧
          TypesSecrets importSecrets (machine.exchange importPrompt rest) [password, confirmation]
            asked ∧
          Seed.resolve line = .ok seed ∧
          keeping after vault ∧
          vault.unlock password = .ok seed ∧
          after = middle.write
            ("Wallet imported: " ++ (KeyPair.derive seed).address.text ++ "\n")) ∧
    (Store.memory : Store (StateM Machine)).Keeps (Store.Gives Store.memory) ∧
    ∀ path, (Store.file path : Store (StateM Machine)).Keeps (Store.Records path) := by
  refine ⟨fun _ _ => importSeed_rejected_iff, fun _ => rfl, ?accepted, ?never,
    fun _ keeps _ => exists_of_importSeed_eq_ok keeps, Store.memory_keeps, Store.file_keeps⟩
  case accepted =>
    intro line rest typed accepted
    constructor
    · rw [execute_importSeed_of_types typed]
      split
      · rename_i problem resolved
        exact absurd resolved (accepted problem)
      · rfl
    · intro password confirmation problem state after failed
      exact accepted problem (Wallet.resolve_of_importSeed_eq_error failed)
  case never =>
    intro problem after ran
    rcases importSeed_cases ran with ⟨_, ⟨⟩⟩ | ⟨line, rest, _, ⟨_, _, ⟨⟩, _⟩ | ⟨accepted, ran⟩⟩
    rcases importLine_cases ran with ⟨_, ⟨⟩⟩ | ⟨_, _, _, _, ⟨cause, same, failed⟩ | ⟨_, _, ⟨⟩, _⟩⟩
    cases cause <;> cases same
    exact accepted problem (Wallet.resolve_of_importSeed_eq_error failed)

/-- Three words that are no phrase are refused before the passwords are read, and a single word is
imported. -/
theorem importSeed_refuses_as_resolved_secret :
    let wallet : Wallet (StateM Machine) := .inMemory {} 3
    let machine (line : String) : Machine :=
      { disk := { start := [] }, entropy := List.replicate 32 7,
        input := inputOf [line, "password1", "password1"] }
    (∃ problem after, execute (importSeed wallet false) (machine "not a phrase") =
        (.error (.phraseRejected (.phrase problem)), after) ∧
      after.input = inputOf ["password1", "password1"]) ∧
    ∃ after seed vault password,
      execute (importSeed wallet false) (machine "hunter2") = (.ok (), after) ∧
        execute wallet.store.get after = (.ok (some vault), after) ∧
        vault.unlock password = .ok seed ∧
        execute (wallet.importSeed "hunter2" "" "" false) (machine "hunter2") ≠
          (.error (.seed (.phrase (.wordCount 1))), machine "hunter2") := by
  intro wallet machine
  have typed (line : String) (typeable : IsTypeable line) :
      Types (machine line).input line (inputOf ["password1", "password1"]) :=
    types_of_isTypeable typeable _
  have rejected : Seed.resolve "not a phrase" = .error (.phrase (.wordCount 3)) := by
    decide +kernel
  have resolved : Seed.resolve "hunter2" = .ok (Seed.ofText "hunter2") := by decide +kernel
  have imported : (execute (importSeed wallet false) (machine "hunter2")).1 = .ok () := by
    decide +kernel
  constructor
  · obtain ⟨refuses, _⟩ := importSeed_refuses_as_resolved wallet false (machine "not a phrase")
    exact ⟨.wordCount 3, _, (refuses _ _).mpr
      ⟨"not a phrase", _, _, typed _ (by decide +kernel), rejected, rfl, rfl⟩, rfl⟩
  · obtain ⟨_, _, accepted, _, leaves, keeps, _⟩ :=
      importSeed_refuses_as_resolved wallet false (machine "hunter2")
    obtain ⟨_, _, password, _, _, seed, vault, _, _, _, _, got, opened, _⟩ :=
      leaves _ keeps _ (Prod.ext imported rfl)
    have fits := typed "hunter2" (by decide +kernel)
    have goes := accepted "hunter2" _ fits (by rw [resolved]; simp)
    exact ⟨_, seed, vault, password, Prod.ext imported rfl, got, opened, goes.2 _ _ _ _ _⟩

end Command

end SeedVault
