/-
One call of an operation of a wallet over the vault in memory: what it answers, what it
does to the random bytes and the vault, and which seeds it seals under which passwords.
-/

import SeedVault.Proofs.Vault.Sealing
import SeedVault.Proofs.Wallet.Outcome

namespace SeedVault

/-- An operation of a wallet with its arguments. -/
inductive Operation
  | beginCreate (password confirmation : String)
  | finishCreate (pending : PendingWallet) (answers : List String)
  | importSeed (input password confirmation : String) (overwrite : Bool)
  | unlock (password : String) (expected : Option Address)
  | changePassword (current password confirmation : String) (expected : Option Address)
  | forget

/-- What an operation that succeeds answers. -/
inductive Reply
  | pending (pending : PendingWallet)
  | unlocked (wallet : UnlockedWallet)
  | forgotten

def Wallet.perform {m : Type → Type} [Monad m] [Entropy m] (wallet : Wallet m) :
    Operation → ExceptT WalletError m Reply
  | .beginCreate password confirmation =>
      Reply.pending <$> wallet.beginCreate password confirmation
  | .finishCreate pending answers => Reply.unlocked <$> wallet.finishCreate pending answers
  | .importSeed input password confirmation overwrite =>
      Reply.unlocked <$> wallet.importSeed input password confirmation overwrite
  | .unlock password expected => Reply.unlocked <$> wallet.unlock password expected
  | .changePassword current password confirmation expected =>
      Reply.unlocked <$> wallet.changePassword current password confirmation expected
  | .forget => (fun _ => Reply.forgotten) <$> wallet.forget

/-- Wallets over stores that work alike perform every operation alike. -/
theorem Wallet.Alike.perform {σ τ : Type} {related : σ → τ → Prop} [Entropy (StateM σ)]
    [Entropy (StateM τ)] {left : Wallet (StateM σ)} {right : Wallet (StateM τ)}
    (alike : Alike related left right) (draws : DrawsAlike related) (operation : Operation) :
    Simulates related (left.perform operation) (right.perform operation) := by
  cases operation with
  | beginCreate password confirmation => exact (alike.beginCreate draws password confirmation).map _
  | finishCreate pending answers => exact (alike.finishCreate draws pending answers).map _
  | importSeed input password confirmation overwrite =>
      exact (alike.importSeed draws input password confirmation overwrite).map _
  | unlock password expected => exact (alike.unlock draws password expected).map _
  | changePassword current password confirmation expected =>
      exact (alike.changePassword draws current password confirmation expected).map _
  | forget => exact alike.forget.map _

/-- An operation and the settings of the wallet that performs it. -/
structure Call where
  policy : Password.Policy
  challengeWords : Nat
  operation : Operation

/-- What a call answers, what it does, and which machine it leaves. -/
structure Outcome where
  answer : Except WalletError Reply
  accesses : List Access
  machine : Machine

namespace Call

/-- The wallet of a call. -/
def wallet {m : Type → Type} [Monad m] [Slot m] (call : Call) : Wallet m :=
  .inMemory call.policy call.challengeWords

/-- Makes the call on a machine and takes down what it does. -/
def run (call : Call) (machine : Machine) : Outcome :=
  let (answer, recorder) := execute (call.wallet.perform call.operation) (Recorder.mk machine [])
  ⟨answer, recorder.accesses, recorder.machine⟩

/-- The call answers the same, and leaves the same machine, if nothing is taken down. -/
theorem execute_eq_run (call : Call) (machine : Machine) :
    execute (call.wallet.perform call.operation) machine =
      ((call.run machine).answer, (call.run machine).machine) := by
  have alike := Recorder.alike call.policy call.challengeWords
  obtain ⟨sameAnswer, sameMachine⟩ :=
    alike.perform Recorder.drawsAlike call.operation ⟨machine, []⟩ machine rfl
  exact Prod.ext sameAnswer.symm sameMachine.symm

end Call

/-- How a call can end. -/
inductive Ends (policy : Password.Policy) (challengeWords : Nat) :
    Operation → Machine → Except WalletError Reply → List Access → Machine → Prop
  | beginCreate {password confirmation : String} {machine after : Machine}
      {answer : Except WalletError PendingWallet} {accesses : List Access} :
      Wallet.Begins policy challengeWords password confirmation machine answer accesses after →
        Ends policy challengeWords (.beginCreate password confirmation) machine
          (answer.map .pending) accesses after
  | finishCreate {pending : PendingWallet} {answers : List String} {machine after : Machine}
      {answer : Except WalletError UnlockedWallet} {accesses : List Access} :
      Wallet.Finishes pending answers machine answer accesses after →
        Ends policy challengeWords (.finishCreate pending answers) machine
          (answer.map .unlocked) accesses after
  | importSeed {input password confirmation : String} {overwrite : Bool}
      {machine after : Machine} {answer : Except WalletError UnlockedWallet}
      {accesses : List Access} :
      Wallet.Imports policy input password confirmation overwrite machine answer accesses after →
        Ends policy challengeWords (.importSeed input password confirmation overwrite) machine
          (answer.map .unlocked) accesses after
  | unlock {password : String} {expected : Option Address} {machine after : Machine}
      {answer : Except WalletError UnlockedWallet} {accesses : List Access} :
      Wallet.Unlocks password expected machine answer accesses after →
        Ends policy challengeWords (.unlock password expected) machine (answer.map .unlocked)
          accesses after
  | changePassword {current password confirmation : String} {expected : Option Address}
      {machine after : Machine} {answer : Except WalletError UnlockedWallet}
      {accesses : List Access} :
      Wallet.Changes policy current password confirmation expected machine answer accesses after →
        Ends policy challengeWords (.changePassword current password confirmation expected) machine
          (answer.map .unlocked) accesses after
  | forget {machine : Machine} :
      Ends policy challengeWords .forget machine (.ok .forgotten) [.cleared]
        { machine with vault := none }

/-- What a program answers may be wrapped. -/
theorem Meets.map {ε α β : Type} {program : ExceptT ε (StateM Recorder) α}
    {relation : Machine → Except ε α → List Access → Machine → Prop}
    {wrapped : Machine → Except ε β → List Access → Machine → Prop}
    (meets : Meets program relation) (wrap : α → β)
    (ends : ∀ machine answer accesses after, relation machine answer accesses after →
      wrapped machine (answer.map wrap) accesses after) :
    Meets (wrap <$> program) wrapped := by
  intro machine before
  obtain ⟨answer, accesses, after, ran, related⟩ := meets machine before
  refine ⟨answer.map wrap, accesses, after, ?_, ends machine answer accesses after related⟩
  rw [execute_map, ran]

theorem Wallet.perform_meets {wallet : Wallet (StateM Recorder)}
    (kept : wallet.store = Store.memory) (operation : Operation) :
    Meets (wallet.perform operation) (Ends wallet.policy wallet.challengeWords operation) := by
  cases operation with
  | beginCreate password confirmation =>
      exact (beginCreate_meets kept password confirmation).map _ fun _ _ _ _ => .beginCreate
  | finishCreate pending answers =>
      exact (finishCreate_meets kept pending answers).map _ fun _ _ _ _ => .finishCreate
  | importSeed input password confirmation overwrite =>
      exact (importSeed_meets kept input password confirmation overwrite).map _
        fun _ _ _ _ => .importSeed
  | unlock password expected =>
      exact (unlock_meets kept password expected).map _ fun _ _ _ _ => .unlock
  | changePassword current password confirmation expected =>
      exact (changePassword_meets kept current password confirmation expected).map _
        fun _ _ _ _ => .changePassword
  | forget =>
      apply (forget_meets kept).map
      rintro machine _ _ _ ⟨⟩
      exact .forget

/-- Every call ends in one of the ways of its operation. -/
theorem Call.run_ends (call : Call) (machine : Machine) :
    Ends call.policy call.challengeWords call.operation machine (call.run machine).answer
      (call.run machine).accesses (call.run machine).machine := by
  have meets : Meets (call.wallet.perform call.operation) _ :=
    Wallet.perform_meets rfl call.operation
  obtain ⟨answer, accesses, after, ran, ends⟩ := meets machine []
  rw [run, ran]
  exact ends

end SeedVault
