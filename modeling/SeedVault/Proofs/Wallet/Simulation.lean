/-
Wallets over stores that work alike. If the stores and the sources of random bytes answer
the same from related states, then so does every operation of the wallets.
-/

import SeedVault.Proofs.Execution
import SeedVault.Wallet

namespace SeedVault

/-- From related states, random bytes are drawn alike. -/
def DrawsAlike {σ τ : Type} [Entropy (StateM σ)] [Entropy (StateM τ)] (related : σ → τ → Prop) :
    Prop :=
  ∀ {ε : Type} (problem : ε) (size : Nat),
    Simulates related (Entropy.drawOr problem size : ExceptT ε (StateM σ) (Bytes size))
      (Entropy.drawOr problem size)

/-- Two wallets have the same settings, and their stores work alike. -/
structure Wallet.Alike {σ τ : Type} (related : σ → τ → Prop) (left : Wallet (StateM σ))
    (right : Wallet (StateM τ)) : Prop where
  policy : left.policy = right.policy
  challengeWords : left.challengeWords = right.challengeWords
  get : Simulates related left.store.get right.store.get
  put (vault : Vault) : Simulates related (left.store.put vault) (right.store.put vault)
  clear : Simulates related left.store.clear right.store.clear

namespace Wallet.Alike

variable {σ τ : Type} {related : σ → τ → Prop} {left : Wallet (StateM σ)}
  {right : Wallet (StateM τ)}

theorem vault? (alike : Alike related left right) : Simulates related left.vault? right.vault? :=
  alike.get.adapt _

theorem hasVault (alike : Alike related left right) :
    Simulates related left.hasVault right.hasVault :=
  alike.vault?.map _

theorem checkPassword (alike : Alike related left right) (password confirmation : String) :
    Simulates related (left.checkPassword password confirmation)
      (right.checkPassword password confirmation) := by
  unfold Wallet.checkPassword
  rw [alike.policy]
  exact Simulates.mk_pure _

theorem forget (alike : Alike related left right) : Simulates related left.forget right.forget :=
  alike.clear.adapt _

theorem checkAddress (expected derived : Address) :
    Simulates related (Wallet.checkAddress expected derived)
      (Wallet.checkAddress expected derived) := by
  unfold Wallet.checkAddress
  split
  · exact Simulates.pure _
  · exact Simulates.throw _

variable [Entropy (StateM σ)] [Entropy (StateM τ)]

theorem lockAndStore (alike : Alike related left right) (draws : DrawsAlike related) (seed : Seed)
    (password : String) :
    Simulates related (left.lockAndStore seed password) (right.lockAndStore seed password) := by
  apply Simulates.bind
  · apply Simulates.adapt
    exact (draws _ _).bind fun salt => (draws _ _).bind fun iv => Simulates.pure _
  · intro vault
    exact (alike.put vault).adapt _

theorem beginCreate (alike : Alike related left right) (draws : DrawsAlike related)
    (password confirmation : String) :
    Simulates related (left.beginCreate password confirmation)
      (right.beginCreate password confirmation) := by
  apply alike.hasVault.bind
  intro present
  cases present with
  | true => exact Simulates.throw _
  | false =>
      apply (alike.checkPassword password confirmation).bind
      intro analysis
      apply Simulates.bind
      · exact ((draws _ _).map _).adapt _
      · intro phrase
        apply Simulates.bind
        · apply Simulates.adapt
          rw [alike.challengeWords]
          exact (draws _ _).map _
        · intro challenge
          exact Simulates.pure _

theorem finishCreate (alike : Alike related left right) (draws : DrawsAlike related)
    (pending : PendingWallet) (answers : List String) :
    Simulates related (left.finishCreate pending answers) (right.finishCreate pending answers) := by
  unfold Wallet.finishCreate
  split
  · exact (alike.lockAndStore draws _ _).bind fun _ => Simulates.pure _
  · exact Simulates.throw _

theorem importSeed (alike : Alike related left right) (draws : DrawsAlike related)
    (input password confirmation : String) (overwrite : Bool) :
    Simulates related (left.importSeed input password confirmation overwrite)
      (right.importSeed input password confirmation overwrite) := by
  have rest : Simulates related
      (do
        let _ ← left.checkPassword password confirmation
        let seed ← ExceptT.mk (pure ((Seed.resolve input).mapError .seed))
        left.lockAndStore seed password
        return (⟨seed, .tagged⟩ : UnlockedWallet))
      (do
        let _ ← right.checkPassword password confirmation
        let seed ← ExceptT.mk (pure ((Seed.resolve input).mapError .seed))
        right.lockAndStore seed password
        return ⟨seed, .tagged⟩) := by
    apply (alike.checkPassword password confirmation).bind
    intro _
    apply (Simulates.mk_pure _).bind
    intro seed
    exact (alike.lockAndStore draws seed password).bind fun _ => Simulates.pure _
  cases overwrite with
  | true => exact rest
  | false =>
      apply alike.hasVault.bind
      intro present
      cases present with
      | true => exact Simulates.throw _
      | false => exact rest

theorem unlock (alike : Alike related left right) (draws : DrawsAlike related) (password : String)
    (expected : Option Address) :
    Simulates related (left.unlock password expected) (right.unlock password expected) := by
  apply alike.vault?.bind
  intro stored
  cases stored with
  | none => exact Simulates.throw _
  | some vault =>
      apply (Simulates.mk_pure _).bind
      intro seed
      cases expected with
      | none =>
          dsimp only
          split <;> exact Simulates.pure _
      | some address =>
          dsimp only
          split
          · exact (checkAddress _ _).bind fun _ => Simulates.pure _
          · apply (checkAddress _ _).bind
            intro _
            exact (alike.lockAndStore draws _ _).bind fun _ => Simulates.pure _

theorem changePassword (alike : Alike related left right) (draws : DrawsAlike related)
    (current password confirmation : String) (expected : Option Address) :
    Simulates related (left.changePassword current password confirmation expected)
      (right.changePassword current password confirmation expected) := by
  apply (alike.checkPassword password confirmation).bind
  intro _
  apply (alike.unlock draws current expected).bind
  intro unlocked
  dsimp only
  split
  · exact Simulates.throw _
  · exact (alike.lockAndStore draws _ _).bind fun _ => Simulates.pure _

end Wallet.Alike

end SeedVault
