/-
New passwords. A command that sets a password asks for it first. It fails and has touched nothing
but the terminal, or the password that was typed, and typed again, is as long as the policy wants.
-/

import SeedVault.Program
import SeedVault.Proofs.Command.Effect
import SeedVault.Proofs.Command.Import

namespace SeedVault

/-- A program fails and leaves what is looked at as it is, unless something is granted. -/
def Guarded {σ γ ε α : Type} (look : σ → γ) (program : ExceptT ε (StateM σ) α) (state : σ)
    (granted : Prop) : Prop :=
  ∀ answer after, execute program state = (answer, after) →
    (∃ cause, answer = .error cause) ∧ look after = look state ∨ granted

namespace Guarded

variable {σ γ ε ε' α β : Type} {look : σ → γ} {program : ExceptT ε (StateM σ) α} {state : σ}
  {granted more : Prop}

theorem mono (guarded : Guarded look program state granted) (implies : granted → more) :
    Guarded look program state more := by
  intro answer after ran
  exact (guarded answer after ran).imp_right implies

theorem throw (problem : ε) :
    Guarded look (MonadExcept.throw problem : ExceptT ε (StateM σ) α) state granted := by
  rintro _ _ ⟨⟩
  exact .inl ⟨⟨problem, rfl⟩, rfl⟩

/-- A program that succeeds was granted it. -/
theorem of_ok {value : α} {after : σ} (guarded : Guarded look program state granted)
    (ran : execute program state = (.ok value, after)) : granted := by
  rcases guarded _ _ ran with ⟨⟨_, ⟨⟩⟩, _⟩ | granted
  exact granted

/-- What is granted before a program goes on is granted. -/
theorem bind {next : α → ExceptT ε (StateM σ) β} (guarded : Guarded look program state granted) :
    Guarded look (program >>= next) state granted := by
  intro answer after ran
  rcases execute_bind_cases ran with ⟨cause, rfl, failed⟩ | ⟨value, middle, passed, _⟩
  · rcases guarded _ _ failed with ⟨_, kept⟩ | granted
    · exact .inl ⟨⟨cause, rfl⟩, kept⟩
    · exact .inr granted
  · exact .inr (guarded.of_ok passed)

/-- A program that changes nothing may come first. -/
theorem bind_of_still {next : α → ExceptT ε (StateM σ) β} (still : Preserves id program)
    (guarded : ∀ value, Guarded look (next value) state granted) :
    Guarded look (program >>= next) state granted := by
  intro answer after ran
  have kept := still state
  rcases execute_bind_cases ran with ⟨cause, rfl, failed⟩ | ⟨value, middle, passed, continued⟩
  · rw [failed] at kept
    exact .inl ⟨⟨cause, rfl⟩, congrArg look kept⟩
  · rw [passed] at kept
    change middle = state at kept
    rw [kept] at continued
    exact guarded value answer after continued

theorem adapt (guarded : Guarded look program state granted) (change : ε → ε') :
    Guarded look (program.adapt change) state granted := by
  intro answer after ran
  obtain ⟨inner, rfl, ended⟩ := execute_adapt_cases ran
  rcases guarded inner after ended with ⟨⟨cause, rfl⟩, kept⟩ | granted
  · exact .inl ⟨⟨change cause, rfl⟩, kept⟩
  · exact .inr granted

end Guarded

/-- Asking the store for its vault leaves everything as it is. -/
def Store.IsStill {σ : Type} (store : Store (StateM σ)) : Prop :=
  Preserves id store.get

theorem Store.file_isStill (path : Path) : (file path : Store (StateM Machine)).IsStill := by
  intro machine
  have read := execute_readFile path machine
  exact congrArg Prod.snd read

namespace Wallet

section

variable {σ γ : Type} {look : σ → γ} {wallet : Wallet (StateM σ)}
  {input current password confirmation : String} {overwrite : Bool} {expected : Option Address}
  {state : σ}

theorem hasVault_still (still : wallet.store.IsStill) : Preserves id wallet.hasVault :=
  (still.adapt WalletError.store).map _

/-- Only a password that is long enough and is confirmed passes the check. -/
theorem checkPassword_guarded : Guarded look (wallet.checkPassword password confirmation) state
    (wallet.policy.minLength ≤ password.length ∧ password = confirmation) := by
  rintro _ _ ⟨⟩
  cases checked : wallet.policy.check password confirmation with
  | error cause => exact .inl ⟨⟨_, rfl⟩, rfl⟩
  | ok analysis =>
      obtain ⟨long, confirmed, _⟩ := Password.Policy.check_eq_ok_iff.mp checked
      exact .inr ⟨long, confirmed⟩

variable [Entropy (StateM σ)]

theorem beginCreate_guarded (still : wallet.store.IsStill) :
    Guarded look (wallet.beginCreate password confirmation) state
      (wallet.policy.minLength ≤ password.length ∧ password = confirmation) := by
  apply Guarded.bind_of_still (hasVault_still still)
  intro stored
  cases stored with
  | true => exact Guarded.throw WalletError.vaultExists
  | false => exact checkPassword_guarded.bind

theorem importSeed_guarded (still : wallet.store.IsStill) :
    Guarded look (wallet.importSeed input password confirmation overwrite) state
      (wallet.policy.minLength ≤ password.length ∧ password = confirmation) := by
  unfold importSeed
  cases overwrite with
  | true => exact checkPassword_guarded.bind
  | false =>
      apply Guarded.bind_of_still (hasVault_still still)
      intro stored
      cases stored with
      | true => exact Guarded.throw WalletError.vaultExists
      | false => exact checkPassword_guarded.bind

theorem changePassword_guarded :
    Guarded look (wallet.changePassword current password confirmation expected) state
      (wallet.policy.minLength ≤ password.length ∧ password = confirmation) :=
  checkPassword_guarded.bind

end

end Wallet

/-- A new password is typed for a request, and typed again. -/
inductive Request.Chooses (machine : Machine) (password : String) : Request → Prop
  | create {asked : Machine} :
      TypesSecrets Command.importSecrets machine [password, password] asked →
        Chooses machine password .create
  | importSeed {overwrite : Bool} {line : String} {rest : List UInt8} {asked : Machine} :
      Types machine.input line rest →
        TypesSecrets Command.importSecrets (machine.exchange Command.importPrompt rest)
          [password, password] asked →
          Chooses machine password (.importSeed overwrite)
  | changePassword {text : Option String} {current : String} {asked : Machine} :
      TypesSecrets Command.changePrompts machine [current, password, password] asked →
        Chooses machine password (.changePassword text)

namespace Command

variable {wallet : Wallet (StateM Machine)} {machine : Machine} {overwrite : Bool}
  {text : Option String} {expected : Option Address} {granted : Prop} {prompt : String}
  {next : String → ExceptT CommandError (StateM Machine) Unit}

/-- A prompt for a secret does not touch the disk. -/
theorem askSecret_guarded (guarded : ∀ secret asked, TypesSecret prompt machine secret asked →
    Guarded Machine.disk (next secret) asked granted) :
    Guarded Machine.disk (askSecret prompt >>= next) machine granted := by
  intro answer after ran
  rcases execute_askSecret_bind_apart ran with
    ⟨cause, rfl, kept⟩ | ⟨secret, asked, typed, continued⟩
  · have left := congrArg Machine.disk kept
    exact .inl ⟨⟨_, rfl⟩, left⟩
  · have left := congrArg Machine.disk typed.apart_eq
    rcases guarded secret asked typed answer after continued with ⟨failed, kept⟩ | granted
    · exact .inl ⟨failed, kept.trans left⟩
    · exact .inr granted

/-- Neither does a prompt for a line. -/
theorem ask_guarded (guarded : ∀ line rest, Types machine.input line rest →
    Guarded Machine.disk (next line) (machine.exchange (prompt ++ " ") rest) granted) :
    Guarded Machine.disk (ask prompt >>= next) machine granted := by
  intro answer after ran
  rcases execute_ask_bind_apart ran with ⟨cause, rfl, kept⟩ | ⟨line, rest, typed, continued⟩
  · have left := congrArg Machine.disk kept
    exact .inl ⟨⟨_, rfl⟩, left⟩
  · exact guarded line rest typed answer after continued

theorem create_guarded (still : wallet.store.IsStill) :
    Guarded Machine.disk (create wallet) machine
      (∃ password, wallet.policy.minLength ≤ password.length ∧
        Request.Chooses machine password .create) := by
  apply Guarded.bind_of_still ((Wallet.hasVault_still still).adapt CommandError.wallet)
  intro stored
  cases stored with
  | true => exact Guarded.throw CommandError.vaultExists
  | false =>
      apply askSecret_guarded
      intro password middle once
      apply askSecret_guarded
      intro confirmation asked again
      apply ((Wallet.beginCreate_guarded still).adapt CommandError.wallet).bind.mono
      rintro ⟨long, rfl⟩
      exact ⟨password, long, .create (.answer once (.answer again .nothing))⟩

theorem importSeed_guarded (still : wallet.store.IsStill) :
    Guarded Machine.disk (importSeed wallet overwrite) machine
      (∃ password, wallet.policy.minLength ≤ password.length ∧
        Request.Chooses machine password (.importSeed overwrite)) := by
  apply ask_guarded
  intro line rest typed answer after ran
  rcases execute_rejection ran with ⟨problem, _, rfl, rfl⟩ | ⟨_, accepted⟩
  · exact .inl ⟨⟨_, rfl⟩, rfl⟩
  · refine askSecret_guarded ?_ answer after accepted
    intro password middle once
    apply askSecret_guarded
    intro confirmation asked again
    apply ((Wallet.importSeed_guarded still).adapt _).bind.mono
    rintro ⟨long, rfl⟩
    exact ⟨password, long, .importSeed typed (.answer once (.answer again .nothing))⟩

theorem changePassword_guarded :
    Guarded Machine.disk (changePassword wallet expected) machine
      (∃ password, wallet.policy.minLength ≤ password.length ∧
        Request.Chooses machine password (.changePassword text)) := by
  apply askSecret_guarded
  intro current first typed
  apply askSecret_guarded
  intro password middle once
  apply askSecret_guarded
  intro confirmation asked again
  apply (Wallet.changePassword_guarded.adapt _).bind.mono
  rintro ⟨long, rfl⟩
  exact ⟨password, long, .changePassword (.answer typed (.answer once (.answer again .nothing)))⟩

end Command

/-- A request for which a new password is typed. -/
inductive Request.SetsPassword : Request → Prop
  | create : SetsPassword .create
  | importSeed {overwrite : Bool} : SetsPassword (.importSeed overwrite)
  | changePassword {text : Option String} : SetsPassword (.changePassword text)

/-- Whatever request sets a password, it fails over a disk that is as it was, or a password was
typed for it that is as long as the policy wants. -/
theorem Program.serve_guarded {wallet : Wallet (StateM Machine)} {machine : Machine}
    {request : Request} (still : wallet.store.IsStill) (sets : request.SetsPassword) :
    Guarded Machine.disk (serve wallet request) machine
      (∃ password, wallet.policy.minLength ≤ password.length ∧
        request.Chooses machine password) := by
  cases sets with
  | create => exact (Command.create_guarded still).adapt _
  | importSeed => exact (Command.importSeed_guarded still).adapt _
  | changePassword =>
      apply Guarded.bind_of_still (Preserves.mk_pure _)
      intro expected
      exact Command.changePassword_guarded.adapt _

end SeedVault
