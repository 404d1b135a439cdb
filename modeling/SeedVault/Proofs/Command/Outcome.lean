/-
How the commands that ask for a password, for a seed or for a confirmation can end. For each
there is a relation with one case for each way to end, from a prompt without an answer to the
line that reports a success.
-/

import SeedVault.Proofs.Command.Backup

namespace SeedVault

namespace Wallet

variable {policy : Password.Policy} {challengeWords : Nat} {input current password confirmation : String}
  {overwrite : Bool} {expected : Option Address} {machine after : Machine}
  {answer : Except WalletError UnlockedWallet}

theorem unlocks_of_execute
    (ran : execute ((inMemory policy challengeWords).unlock password expected) machine =
      (answer, after)) :
    ∃ accesses, Unlocks password expected machine answer accesses after :=
  (unlock_meets rfl password expected).unrecorded
    ((Recorder.alike policy challengeWords).unlock Recorder.drawsAlike password expected) ran

theorem changes_of_execute
    (ran : execute ((inMemory policy challengeWords).changePassword current password confirmation
      expected) machine = (answer, after)) :
    ∃ accesses, Changes policy current password confirmation expected machine answer accesses
      after :=
  (changePassword_meets rfl current password confirmation expected).unrecorded
    ((Recorder.alike policy challengeWords).changePassword Recorder.drawsAlike current password
      confirmation expected) ran

theorem imports_of_execute
    (ran : execute ((inMemory policy challengeWords).importSeed input password confirmation
      overwrite) machine = (answer, after)) :
    ∃ accesses, Imports policy input password confirmation overwrite machine answer accesses
      after :=
  (importSeed_meets rfl input password confirmation overwrite).unrecorded
    ((Recorder.alike policy challengeWords).importSeed Recorder.drawsAlike input password
      confirmation overwrite) ran

end Wallet

/-- Some prompts for secrets are answered, one after the other. -/
inductive TypesSecrets : List String → Machine → List String → Machine → Prop
  | nothing {machine : Machine} : TypesSecrets [] machine [] machine
  | answer {prompt secret : String} {prompts secrets : List String}
      {machine middle after : Machine} :
      TypesSecret prompt machine secret middle → TypesSecrets prompts middle secrets after →
        TypesSecrets (prompt :: prompts) machine (secret :: secrets) after

namespace TypesSecrets

variable {prompts secrets : List String} {machine after : Machine}

theorem vault_eq (typed : TypesSecrets prompts machine secrets after) :
    after.vault = machine.vault := by
  induction typed with
  | nothing => rfl
  | answer first _ ih => exact ih.trans first.vault_eq

theorem entropy_eq (typed : TypesSecrets prompts machine secrets after) :
    after.entropy = machine.entropy := by
  induction typed with
  | nothing => rfl
  | answer first _ ih => exact ih.trans first.entropy_eq

end TypesSecrets

namespace Command

section prompts

variable {α : Type} {prompt : String} {machine after : Machine} {answer : Except CommandError α}
  {next : String → ExceptT CommandError (StateM Machine) α}

/-- A prompt for a secret is not answered, and nothing else is touched, or it is answered. -/
theorem execute_askSecret_bind_apart
    (ran : execute (askSecret prompt >>= next) machine = (answer, after)) :
    (∃ cause, answer = .error (.terminal cause) ∧ after.apart = machine.apart) ∨
      ∃ secret asked, TypesSecret prompt machine secret asked ∧
        execute (next secret) asked = (answer, after) := by
  rcases execute_bind_cases ran with ⟨_, rfl, stopped⟩ | ⟨secret, asked, passed, ran⟩
  · have kept := Terminal.askSecret_preserves_apart prompt machine
    obtain ⟨cause, rfl, failed⟩ := execute_adapt_eq_error_iff.mp stopped
    rw [failed] at kept
    exact .inl ⟨cause, rfl, kept⟩
  · rw [askSecret, execute_adapt_eq_ok_iff, Terminal.execute_askSecret_eq_ok_iff] at passed
    exact .inr ⟨secret, asked, passed, ran⟩

/-- A prompt for a line is not answered, and nothing else is touched, or it is answered. -/
theorem execute_ask_bind_apart
    (ran : execute (ask prompt >>= next) machine = (answer, after)) :
    (∃ cause, answer = .error (.terminal cause) ∧ after.apart = machine.apart) ∨
      ∃ line rest, Types machine.input line rest ∧
        execute (next line) (machine.exchange (prompt ++ " ") rest) = (answer, after) := by
  rcases execute_bind_cases ran with ⟨_, rfl, stopped⟩ | ⟨line, asked, passed, ran⟩
  · have kept := Terminal.ask_preserves_apart prompt machine
    obtain ⟨cause, rfl, failed⟩ := execute_adapt_eq_error_iff.mp stopped
    rw [failed] at kept
    exact .inl ⟨cause, rfl, kept⟩
  · obtain ⟨rest, typed, rfl⟩ := execute_ask_eq_ok_iff.mp passed
    exact .inr ⟨line, rest, typed, ran⟩

/-- A prompt for a secret is not answered, and the vault stays as it is, or it is answered. -/
theorem execute_askSecret_bind_cases
    (ran : execute (askSecret prompt >>= next) machine = (answer, after)) :
    (∃ cause, answer = .error (.terminal cause) ∧ after.vault = machine.vault) ∨
      ∃ secret asked, TypesSecret prompt machine secret asked ∧
        execute (next secret) asked = (answer, after) := by
  rcases execute_askSecret_bind_apart ran with ⟨cause, failed, kept⟩ | typed
  · have left := congrArg Machine.vault kept
    exact .inl ⟨cause, failed, left⟩
  · exact .inr typed

/-- A prompt for a line is not answered, and the vault stays as it is, or it is answered. -/
theorem execute_ask_bind_cases
    (ran : execute (ask prompt >>= next) machine = (answer, after)) :
    (∃ cause, answer = .error (.terminal cause) ∧ after.vault = machine.vault) ∨
      ∃ line rest, Types machine.input line rest ∧
        execute (next line) (machine.exchange (prompt ++ " ") rest) = (answer, after) := by
  rcases execute_ask_bind_apart ran with ⟨cause, failed, kept⟩ | typed
  · have left := congrArg Machine.vault kept
    exact .inl ⟨cause, failed, left⟩
  · exact .inr typed

end prompts

/-- What is written about the password of a vault that was opened. -/
def integrityReport : Integrity → String
  | .tagged => ""
  | .addressMatched => "Legacy vault verified against the expected address and upgraded." ++ "\n"
  | .unverified => "Warning: this vault predates password checking. If the address" ++ "\n" ++
      ("below is not yours, the password was wrong. Re-run with --expect <ADDRESS>." ++ "\n")

/-- How the vault is opened at the terminal. -/
inductive Opens (expected : Option Address) (machine : Machine) :
    Except CommandError UnlockedWallet → Machine → Prop
  | unasked {cause : TerminalError} {after : Machine} :
      after.vault = machine.vault → Opens expected machine (.error (.terminal cause)) after
  | refused {password : String} {asked after : Machine} {cause : WalletError}
      {accesses : List Access} :
      TypesSecret "Vault password:" machine password asked →
        Wallet.Unlocks password expected asked (.error cause) accesses after →
          Opens expected machine (.error (.ofUnlock cause)) after
  | opened {password : String} {asked middle : Machine} {unlocked : UnlockedWallet}
      {accesses : List Access} :
      TypesSecret "Vault password:" machine password asked →
        Wallet.Unlocks password expected asked (.ok unlocked) accesses middle →
          Opens expected machine (.ok unlocked)
            (middle.write (integrityReport unlocked.integrity))

/-- The prompts of a change of the password. -/
def changePrompts : List String :=
  ["Current password:", "New password:", "Confirm new password:"]

/-- How the password is changed at the terminal. -/
inductive ChangesPassword (policy : Password.Policy) (expected : Option Address)
    (machine : Machine) : Except CommandError Unit → Machine → Prop
  | unasked {cause : TerminalError} {after : Machine} :
      after.vault = machine.vault →
        ChangesPassword policy expected machine (.error (.terminal cause)) after
  | refused {current password confirmation : String} {asked after : Machine}
      {cause : WalletError} {accesses : List Access} :
      TypesSecrets changePrompts machine [current, password, confirmation] asked →
        Wallet.Changes policy current password confirmation expected asked (.error cause) accesses
            after →
          ChangesPassword policy expected machine (.error (.ofUnlock cause)) after
  | changed {current password confirmation : String} {asked middle : Machine}
      {changed : UnlockedWallet} {accesses : List Access} :
      TypesSecrets changePrompts machine [current, password, confirmation] asked →
        Wallet.Changes policy current password confirmation expected asked (.ok changed) accesses
            middle →
          ChangesPassword policy expected machine (.ok ())
            (middle.write (s!"Password changed for {changed.address.text}" ++ "\n"))

/-- What an import at the terminal tells of a failure. -/
def importFailure : WalletError → CommandError
  | .vaultExists => .vaultNotReplaced
  | cause => .wallet cause

/-- A line is refused at once: it is shaped like a phrase and is none. -/
def Rejects (line : String) (cause : PhraseError) : Prop :=
  Seed.isPhraseShaped (Text.trim line) = true ∧ Phrase.ofText line = .error cause

/-- How a seed is imported at the terminal. -/
inductive ImportsSeed (policy : Password.Policy) (overwrite : Bool) (machine : Machine) :
    Except CommandError Unit → Machine → Prop
  | unasked {cause : TerminalError} {after : Machine} :
      after.vault = machine.vault →
        ImportsSeed policy overwrite machine (.error (.terminal cause)) after
  | rejected {line : String} {rest : List UInt8} {cause : PhraseError} :
      Types machine.input line rest → Rejects line cause →
        ImportsSeed policy overwrite machine (.error (.phraseRejected (.phrase cause)))
          (machine.exchange ("Recovery phrase, seed hex or secret:" ++ " ") rest)
  | refused {line password confirmation : String} {rest : List UInt8} {asked after : Machine}
      {cause : WalletError} {accesses : List Access} :
      Types machine.input line rest → (∀ cause, ¬ Rejects line cause) →
        TypesSecrets ["New vault password:", "Confirm password:"]
            (machine.exchange ("Recovery phrase, seed hex or secret:" ++ " ") rest)
            [password, confirmation] asked →
          Wallet.Imports policy line password confirmation overwrite asked (.error cause) accesses
              after →
            ImportsSeed policy overwrite machine (.error (importFailure cause)) after
  | imported {line password confirmation : String} {rest : List UInt8} {asked middle : Machine}
      {imported : UnlockedWallet} {accesses : List Access} :
      Types machine.input line rest → (∀ cause, ¬ Rejects line cause) →
        TypesSecrets ["New vault password:", "Confirm password:"]
            (machine.exchange ("Recovery phrase, seed hex or secret:" ++ " ") rest)
            [password, confirmation] asked →
          Wallet.Imports policy line password confirmation overwrite asked (.ok imported) accesses
              middle →
            ImportsSeed policy overwrite machine (.ok ())
              (middle.write (s!"Wallet imported: {imported.address.text}" ++ "\n"))

/-- How the vault is deleted at the terminal. -/
inductive ForgetsVault (machine : Machine) : Except CommandError Unit → Machine → Prop
  | nothing : machine.vault = none →
      ForgetsVault machine (.ok ()) (machine.write ("No vault stored." ++ "\n"))
  | unasked {cause : TerminalError} {after : Machine} :
      after.vault = machine.vault → ForgetsVault machine (.error (.terminal cause)) after
  | kept {line : String} {rest : List UInt8} {after : Machine} :
      Types machine.input line rest → Text.trim line ≠ "forget" → after.vault = machine.vault →
        ForgetsVault machine (.error .forgetNotConfirmed) after
  | forgotten {line : String} {rest : List UInt8} {after : Machine} :
      Types machine.input line rest → Text.trim line = "forget" → after.vault = none →
        ForgetsVault machine (.ok ()) after

section

variable {policy : Password.Policy} {challengeWords : Nat} {expected : Option Address}
  {overwrite : Bool} {machine after : Machine} {answer : Except CommandError Unit}

theorem openWallet_opens {answer : Except CommandError UnlockedWallet}
    (ran : execute (openWallet (.inMemory policy challengeWords) expected) machine =
      (answer, after)) : Opens expected machine answer after := by
  rcases execute_askSecret_bind_cases ran with ⟨cause, rfl, kept⟩ | ⟨password, asked, typed, ran⟩
  · exact .unasked kept
  · rcases execute_bind_cases ran with ⟨_, rfl, stopped⟩ | ⟨unlocked, middle, passed, ran⟩
    · obtain ⟨cause, rfl, failed⟩ := execute_adapt_eq_error_iff.mp stopped
      obtain ⟨accesses, unlocks⟩ := Wallet.unlocks_of_execute failed
      exact .refused typed unlocks
    · obtain ⟨accesses, unlocks⟩ := Wallet.unlocks_of_execute (execute_adapt_eq_ok_iff.mp passed)
      have opens := Opens.opened typed unlocks
      obtain ⟨seed, integrity⟩ := unlocked
      cases integrity with
      | tagged =>
          simp only [execute_pure, Prod.mk.injEq] at ran
          obtain ⟨rfl, rfl⟩ := ran
          rw [← Machine.write_empty middle]
          exact opens
      | addressMatched =>
          simp only [execute_bind, execute_say, execute_pure, Prod.mk.injEq] at ran
          obtain ⟨rfl, rfl⟩ := ran
          exact opens
      | unverified =>
          simp only [execute_bind, execute_say, execute_pure, Machine.write_write,
            Prod.mk.injEq] at ran
          obtain ⟨rfl, rfl⟩ := ran
          exact opens

theorem changePassword_changes
    (ran : execute (changePassword (.inMemory policy challengeWords) expected) machine =
      (answer, after)) : ChangesPassword policy expected machine answer after := by
  rcases execute_askSecret_bind_cases ran with ⟨_, rfl, kept⟩ | ⟨current, first, typed, ran⟩
  · exact .unasked kept
  rcases execute_askSecret_bind_cases ran with ⟨_, rfl, kept⟩ | ⟨password, second, again, ran⟩
  · exact .unasked (kept.trans typed.vault_eq)
  rcases execute_askSecret_bind_cases ran with ⟨_, rfl, kept⟩ | ⟨confirmation, asked, last, ran⟩
  · exact .unasked (kept.trans (again.vault_eq.trans typed.vault_eq))
  have typedAll : TypesSecrets changePrompts machine [current, password, confirmation] asked :=
    .answer typed (.answer again (.answer last .nothing))
  rcases execute_bind_cases ran with ⟨_, rfl, stopped⟩ | ⟨changed, middle, passed, ran⟩
  · obtain ⟨cause, rfl, failed⟩ := execute_adapt_eq_error_iff.mp stopped
    obtain ⟨accesses, changes⟩ := Wallet.changes_of_execute failed
    exact .refused typedAll changes
  · obtain ⟨accesses, changes⟩ := Wallet.changes_of_execute (execute_adapt_eq_ok_iff.mp passed)
    rw [execute_say] at ran
    cases ran
    exact .changed typedAll changes

/-- A line that is not rejected is taken on to the prompts for the password. -/
theorem execute_rejection {line : String} {next : ExceptT CommandError (StateM Machine) Unit}
    (ran : execute (do
      if Seed.isPhraseShaped (Text.trim line) then
        if let .error cause := Phrase.ofText line then throw (.phraseRejected (.phrase cause))
      next) machine = (answer, after)) :
    (∃ cause, Rejects line cause ∧ answer = .error (.phraseRejected (.phrase cause)) ∧
        after = machine) ∨
      (∀ cause, ¬ Rejects line cause) ∧ execute next machine = (answer, after) := by
  by_cases shaped : Seed.isPhraseShaped (Text.trim line) = true
  · cases read : Phrase.ofText line with
    | ok phrase =>
        simp only [shaped, read, if_true] at ran
        refine .inr ⟨?_, ran⟩
        intro cause rejects
        cases read.symm.trans rejects.2
    | error cause =>
        simp only [shaped, read, if_true, execute_throw, execute_bind, Prod.mk.injEq] at ran
        obtain ⟨rfl, rfl⟩ := ran
        exact .inl ⟨cause, ⟨shaped, read⟩, rfl, rfl⟩
  · simp only [shaped] at ran
    exact .inr ⟨fun cause rejects => shaped rejects.1, ran⟩

theorem importSeed_imports
    (ran : execute (importSeed (.inMemory policy challengeWords) overwrite) machine =
      (answer, after)) : ImportsSeed policy overwrite machine answer after := by
  rcases execute_ask_bind_cases ran with ⟨_, rfl, kept⟩ | ⟨line, rest, typed, ran⟩
  · exact .unasked kept
  rcases execute_rejection ran with ⟨cause, rejects, rfl, rfl⟩ | ⟨accepted, ran⟩
  · exact .rejected typed rejects
  rcases execute_askSecret_bind_cases ran with ⟨_, rfl, kept⟩ | ⟨password, first, once, ran⟩
  · exact .unasked kept
  rcases execute_askSecret_bind_cases ran with ⟨_, rfl, kept⟩ | ⟨confirmation, asked, again, ran⟩
  · exact .unasked (kept.trans once.vault_eq)
  have typedAll : TypesSecrets ["New vault password:", "Confirm password:"] _
    [password, confirmation] asked := .answer once (.answer again .nothing)
  rcases execute_bind_cases ran with ⟨_, rfl, stopped⟩ | ⟨imported, middle, passed, ran⟩
  · obtain ⟨cause, rfl, failed⟩ := execute_adapt_eq_error_iff.mp stopped
    obtain ⟨accesses, imports⟩ := Wallet.imports_of_execute failed
    have refused := ImportsSeed.refused typed accepted typedAll imports
    cases cause <;> exact refused
  · obtain ⟨accesses, imports⟩ := Wallet.imports_of_execute (execute_adapt_eq_ok_iff.mp passed)
    rw [execute_say] at ran
    cases ran
    exact .imported typed accepted typedAll imports

theorem forget_forgets
    (ran : execute (forget (.inMemory policy challengeWords)) machine = (answer, after)) :
    ForgetsVault machine answer after := by
  rw [forget, execute_bind, execute_hasVault] at ran
  cases stored : machine.vault with
  | none =>
      simp only [stored, Option.isSome_none, Bool.false_eq_true, if_false, execute_say] at ran
      cases ran
      exact .nothing stored
  | some vault =>
      simp only [stored, Option.isSome_some, if_true] at ran
      rw [execute_bind, execute_say] at ran
      rcases execute_ask_bind_cases ran with ⟨_, rfl, kept⟩ | ⟨line, rest, typed, ran⟩
      · exact .unasked kept
      · by_cases confirmed : Text.trim line = "forget"
        · have cleared (state : Machine) :
              execute ((Wallet.inMemory policy challengeWords).forget.adapt CommandError.wallet)
                  state =
                (.ok (), { state with vault := none }) := rfl
          simp only [confirmed, if_true, execute_bind, cleared, execute_say] at ran
          cases ran
          exact .forgotten typed confirmed rfl
        · simp only [confirmed, if_false, execute_bind, execute_throw] at ran
          cases ran
          exact .kept typed confirmed rfl

end

end Command

end SeedVault
