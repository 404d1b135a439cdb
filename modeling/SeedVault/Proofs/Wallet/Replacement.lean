/-
What takes the place of a stored vault. Whether a vault is stored is looked at when a new
wallet is begun, and not when it is finished, so that a pending wallet replaces a vault
that was stored after it was handed out.
-/

import SeedVault.Proofs.Wallet.Run

namespace SeedVault

/-- The ways in which a call removes a vault or puts another one in its place. -/
inductive Replaces (vault : Vault) : Operation → Option Vault → Prop
  | forget : Replaces vault .forget none
  | importSeed {input password confirmation : String} {seed : Seed} {sealed : Vault} :
      Seed.resolve input = .ok seed → sealed.IsSeal (seed, password) →
        Replaces vault (.importSeed input password confirmation true) (some sealed)
  | finishCreate {pending : PendingWallet} {answers : List String} {sealed : Vault} :
      pending.challenge.verify pending.phrase answers = true →
        sealed.IsSeal (Seed.ofPhrase pending.phrase, pending.password) →
          Replaces vault (.finishCreate pending answers) (some sealed)
  | unlock {password : String} {expected : Option Address} {seed : Seed} {sealed : Vault} :
      vault.isAuthenticated = false → vault.unlock password = .ok seed →
        sealed.IsSeal (seed, password) → Replaces vault (.unlock password expected) (some sealed)
  | changePassword {current password confirmation chosen : String} {expected : Option Address}
      {seed : Seed} {sealed : Vault} :
      vault.unlock current = .ok seed →
        chosen = password ∨ chosen = current ∧ vault.isAuthenticated = false →
          sealed.IsSeal (seed, chosen) →
            Replaces vault (.changePassword current password confirmation expected) (some sealed)

namespace Wallet

variable {policy : Password.Policy} {pending : PendingWallet} {answers : List String}
  {input current password confirmation : String} {overwrite : Bool} {expected : Option Address}
  {machine after : Machine} {answer : Except WalletError UnlockedWallet} {accesses : List Access}
  {vault : Vault}

theorem Stores.left {seed : Seed}
    (stores : Stores seed password machine (.ok ()) accesses after) :
    ∃ sealed, after.vault = some sealed ∧ sealed.IsSeal (seed, password) :=
  stores.writes_of_ok.left

theorem Finishes.replaces
    (finishes : Finishes pending answers machine answer accesses after)
    (stored : machine.vault = some vault) :
    after.vault = some vault ∨ Replaces vault (.finishCreate pending answers) after.vault := by
  cases finishes with
  | unconfirmed => exact .inl stored
  | unsealed _ stores => exact .inl (stores.writes_of_error.unchanged.trans stored)
  | finished verified stores =>
      obtain ⟨sealed, left, isSeal⟩ := stores.left
      rw [left]
      exact .inr (.finishCreate verified isSeal)

/-- How a new wallet is finished if the answers are right, whether or not a vault is stored:
the seed is stored if there are random bytes enough, and nothing changes if not. -/
theorem Finishes.of_verified (finishes : Finishes pending answers machine answer accesses after)
    (verified : pending.challenge.verify pending.phrase answers = true) :
    (32 ≤ machine.entropy.length →
      answer = .ok ⟨Seed.ofPhrase pending.phrase, .tagged⟩ ∧
        ∃ sealed, after.vault = some sealed ∧
          sealed.IsSeal (Seed.ofPhrase pending.phrase, pending.password)) ∧
    (machine.entropy.length < 32 →
      answer = .error (.lock .randomness) ∧ after.vault = machine.vault) := by
  cases finishes with
  | unconfirmed unverified =>
      rw [verified] at unverified
      cases unverified
  | unsealed _ stores =>
      obtain ⟨rfl, short⟩ := stores.cause_of_error
      exact ⟨fun enough => by omega, fun _ => ⟨rfl, stores.writes_of_error.unchanged⟩⟩
  | finished _ stores =>
      have enough := stores.length_of_ok
      exact ⟨fun _ => ⟨rfl, stores.left⟩, fun short => by omega⟩

theorem Imports.replaces
    (imports : Imports policy input password confirmation overwrite machine answer accesses after)
    (stored : machine.vault = some vault) :
    after.vault = some vault ∨
      Replaces vault (.importSeed input password confirmation overwrite) after.vault := by
  cases imports with
  | vaultExists | refused | unresolved => exact .inl stored
  | unsealed _ _ _ stores => exact .inl (stores.writes_of_error.unchanged.trans stored)
  | imported free _ resolved stores =>
      obtain ⟨sealed, left, isSeal⟩ := stores.left
      rw [left]
      cases overwrite with
      | true => exact .inr (.importSeed resolved isSeal)
      | false => cases stored.symm.trans (free rfl)

/-- A vault that is opened stays, or is the seed that it yields, sealed under its password. -/
theorem Unlocks.left {unlocked : UnlockedWallet}
    (unlocks : Unlocks password expected machine (.ok unlocked) accesses after)
    (stored : machine.vault = some vault) :
    vault.unlock password = .ok unlocked.seed ∧
      (after.vault = some vault ∨ vault.isAuthenticated = false ∧
        ∃ sealed, after.vault = some sealed ∧ sealed.IsSeal (unlocked.seed, password)) := by
  cases unlocks with
  | tagged found _ opened _ | unverified found _ opened _ =>
      cases stored.symm.trans found
      exact ⟨opened, .inl stored⟩
  | resealed found legacy opened _ stores =>
      cases stored.symm.trans found
      exact ⟨opened, .inr ⟨legacy, stores.left⟩⟩

theorem Unlocks.replaces (unlocks : Unlocks password expected machine answer accesses after)
    (stored : machine.vault = some vault) :
    after.vault = some vault ∨ Replaces vault (.unlock password expected) after.vault := by
  cases answer with
  | error cause => exact .inl (unlocks.writes_of_error.unchanged.trans stored)
  | ok unlocked =>
      obtain ⟨opened, same | ⟨legacy, sealed, left, isSeal⟩⟩ := unlocks.left stored
      · exact .inl same
      · rw [left]
        exact .inr (.unlock legacy opened isSeal)

theorem Changes.replaces
    (changes : Changes policy current password confirmation expected machine answer accesses
      after)
    (stored : machine.vault = some vault) :
    after.vault = some vault ∨
      Replaces vault (.changePassword current password confirmation expected) after.vault := by
  cases changes with
  | refused => exact .inl stored
  | locked _ unlocks => exact .inl (unlocks.writes_of_error.unchanged.trans stored)
  | unverified _ unlocks unverified =>
      obtain ⟨_, _, _, left, _⟩ := unlocks.writes_of_ok
      exact .inl ((left unverified).unchanged.trans stored)
  | unsealed _ unlocks _ stores =>
      have same := stores.writes_of_error.unchanged
      obtain ⟨opened, kept | ⟨legacy, sealed, left, isSeal⟩⟩ := unlocks.left stored
      · exact .inl (same.trans kept)
      · rw [same, left]
        exact .inr (.changePassword opened (.inr ⟨rfl, legacy⟩) isSeal)
  | changed _ unlocks _ stores =>
      obtain ⟨sealed, left, isSeal⟩ := stores.left
      rw [left]
      exact .inr (.changePassword (unlocks.left stored).1 (.inl rfl) isSeal)

end Wallet

namespace Ends

variable {policy : Password.Policy} {challengeWords : Nat} {operation : Operation}
  {machine after : Machine} {answer : Except WalletError Reply} {accesses : List Access}
  {pending : PendingWallet}

/-- A stored vault is replaced in the given ways only. -/
theorem replaces {vault : Vault}
    (ends : Ends policy challengeWords operation machine answer accesses after)
    (stored : machine.vault = some vault) :
    after.vault = some vault ∨ Replaces vault operation after.vault := by
  cases ends with
  | beginCreate begins => exact .inl (begins.writes.unchanged.trans stored)
  | finishCreate finishes => exact finishes.replaces stored
  | importSeed imports => exact imports.replaces stored
  | unlock unlocks => exact unlocks.replaces stored
  | changePassword changes => exact changes.replaces stored
  | forget => exact .inr .forget

theorem of_finishCreate {answers : List String}
    (ends : Ends policy challengeWords (.finishCreate pending answers) machine answer accesses
      after) :
    ∃ inner : Except WalletError UnlockedWallet, answer = inner.map .unlocked ∧
      Wallet.Finishes pending answers machine inner accesses after := by
  cases ends with
  | finishCreate finishes => exact ⟨_, rfl, finishes⟩

/-- A pending wallet is handed out over an empty store. -/
theorem vault_of_pending
    (ends : Ends policy challengeWords operation machine answer accesses after)
    (answered : Reply.pending? answer = some pending) : after.vault = none := by
  cases ends with
  | beginCreate begins =>
      cases begins with
      | vaultExists | refused | noPhrase | noChallenge => cases answered
      | begun empty _ _ => exact empty
  | @finishCreate _ _ _ _ inner | @importSeed _ _ _ _ _ _ inner | @unlock _ _ _ _ inner
  | @changePassword _ _ _ _ _ _ inner =>
      cases inner <;> cases answered
  | forget => cases answered

end Ends

/-- A call that writes nothing leaves the vault as it is or removes it. -/
theorem Call.vault_of_unwritten {call : Call} {machine : Machine}
    (unwritten : (call.run machine).accesses.filterMap Access.written? = []) :
    (call.run machine).machine.vault = machine.vault ∨ (call.run machine).machine.vault = none := by
  by_cases forgets : call.operation = .forget
  · have ends := call.run_ends machine
    rw [forgets] at ends
    rw [ends.of_forget.2.2]
    exact .inr rfl
  · obtain ⟨done, _, _, writes, _⟩ := Call.run_performs forgets machine
    have areSeals := writes.areSeals
    rw [unwritten, List.forall₂_nil_left_iff] at areSeals
    rw [areSeals] at writes
    exact .inl writes.unchanged

namespace Session

theorem written_grows (session : Session) (events : List Event) :
    session.written <+: (session.run events).written := by
  induction events generalizing session with
  | nil => exact List.prefix_rfl
  | cons event rest ih =>
      refine List.IsPrefix.trans ?_ (ih (session.step event))
      cases event with
      | entropy tape => exact List.prefix_rfl
      | call call => exact List.prefix_append _ _

/-- A store that is empty stays empty until something is written. -/
theorem vault_of_written_eq {session : Session} (empty : session.machine.vault = none)
    {events : List Event} (unwritten : (session.run events).written = session.written) :
    (session.run events).machine.vault = none := by
  induction events generalizing session with
  | nil => exact empty
  | cons event rest ih =>
      have later : (session.step event).written <+: session.written :=
        unwritten ▸ (session.step event).written_grows rest
      have now := later.eq_of_length_le (session.written_grows [event]).length_le
      refine ih ?_ (unwritten.trans now.symm)
      cases event with
      | entropy tape => exact empty
      | call call =>
          have nothing := List.append_right_eq_self.mp now
          rcases Call.vault_of_unwritten nothing with same | gone
          · exact same.trans empty
          · exact gone

/-- In every run, a new wallet that is finished with the right answers takes the place of a
stored vault whenever there are random bytes for its seal, and is never refused because a
vault is stored. Otherwise a stored vault is only removed on request, replaced by an import
that may overwrite, or sealed again with the seed that it yields. A pending wallet meets a
stored vault only if something was written since it was handed out. -/
theorem finishCreate_replaces (machine : Machine) (events : List Event) :
    let session := (Session.mk machine [] [] none).run events
    (∀ policy challengeWords pending answers vault, session.machine.vault = some vault →
      pending.challenge.verify pending.phrase answers = true →
        let outcome := (Call.mk policy challengeWords (.finishCreate pending answers)).run
          session.machine
        (32 ≤ session.machine.entropy.length →
          outcome.answer = .ok (.unlocked ⟨Seed.ofPhrase pending.phrase, .tagged⟩) ∧
            ∃ sealed, outcome.machine.vault = some sealed ∧
              sealed.IsSeal (Seed.ofPhrase pending.phrase, pending.password)) ∧
        (session.machine.entropy.length < 32 →
          outcome.answer = .error (.lock .randomness) ∧ outcome.machine.vault = some vault)) ∧
    (∀ call : Call, ∀ vault, session.machine.vault = some vault →
      (call.run session.machine).machine.vault = some vault ∨
        Replaces vault call.operation (call.run session.machine).machine.vault) ∧
    ∀ (call : Call) (pending : PendingWallet) (later : List Event),
      let begun := session.step (.call call)
      Reply.pending? (call.run session.machine).answer = some pending →
        (begun.run later).written = begun.written → (begun.run later).machine.vault = none := by
  intro session
  refine ⟨?finished, ?replaced, ?unwritten⟩
  case finished =>
    intro policy challengeWords pending answers vault stored verified outcome
    obtain ⟨inner, answered, finishes⟩ := Ends.of_finishCreate
      (Call.run_ends ⟨policy, challengeWords, .finishCreate pending answers⟩ session.machine)
    obtain ⟨sealed, refused⟩ := finishes.of_verified verified
    constructor
    · intro enough
      obtain ⟨rfl, left⟩ := sealed enough
      exact ⟨answered, left⟩
    · intro short
      obtain ⟨rfl, same⟩ := refused short
      exact ⟨answered, same.trans stored⟩
  case replaced =>
    intro call vault stored
    exact (call.run_ends session.machine).replaces stored
  case unwritten =>
    intro call pending later begun answered
    exact vault_of_written_eq ((call.run_ends session.machine).vault_of_pending answered)

/-- A machine without a vault, and random bytes for a new wallet and for two seals. -/
def emptyMachine : Machine :=
  { disk := { start := [] }, entropy := List.replicate 112 0 }

def beginning : Call :=
  ⟨{}, 3, .beginCreate "password" "password"⟩

/-- A new wallet is begun, and before it is finished a seed is imported. -/
def interleaving : List Event :=
  let zeros : Seed := ⟨Vector.replicate 32 0⟩
  [.call beginning, .call ⟨{}, 3, .importSeed zeros.toHex "password" "password" false⟩]

/-- The session in which a pending wallet meets the imported vault. -/
def interleaved : Session :=
  (Session.mk emptyMachine [] [] none).run interleaving

/-- The pending wallet can still be finished, and there are random bytes for its seal. -/
theorem interleaved_meets :
    32 ≤ interleaved.machine.entropy.length ∧
      (∃ vault, interleaved.machine.vault = some vault) ∧
      ∃ pending ∈ interleaved.pendings,
        pending.challenge.verify pending.phrase ["abandon", "abandon", "abandon"] = true := by
  have enough : 32 ≤ interleaved.machine.entropy.length := by decide +kernel
  have stored : interleaved.machine.vault.isSome = true := by decide +kernel
  have handedOut : 0 < interleaved.pendings.length := by decide +kernel
  have verified : interleaved.pendings.all (fun pending =>
      pending.challenge.verify pending.phrase ["abandon", "abandon", "abandon"]) = true := by
    decide +kernel
  have member := List.getElem_mem handedOut
  exact ⟨enough, Option.isSome_iff_exists.mp stored, _, member,
    List.all_eq_true.mp verified _ member⟩

/-- The pending wallet replaces the imported vault, and without random bytes it does not. -/
theorem finishCreate_replaces_interleaved :
    let finishing (pending : PendingWallet) : Call :=
      ⟨{}, 3, .finishCreate pending ["abandon", "abandon", "abandon"]⟩
    let drained := interleaved.step (.entropy [])
    (∃ pending ∈ interleaved.pendings,
      ((finishing pending).run interleaved.machine).answer =
        .ok (.unlocked ⟨Seed.ofPhrase pending.phrase, .tagged⟩) ∧
      ((finishing pending).run drained.machine).answer = .error (.lock .randomness) ∧
      ∃ vault, interleaved.machine.vault = some vault ∧
        (((finishing pending).run interleaved.machine).machine.vault = some vault ∨
          Replaces vault (finishing pending).operation
            ((finishing pending).run interleaved.machine).machine.vault)) ∧
      ((Session.mk emptyMachine [] [] none).step (.call beginning)).machine.vault = none := by
  intro finishing drained
  obtain ⟨enough, ⟨vault, stored⟩, pending, member, verified⟩ := interleaved_meets
  obtain ⟨finished, replaced, _⟩ := finishCreate_replaces emptyMachine interleaving
  obtain ⟨refused, _, _⟩ := finishCreate_replaces emptyMachine (interleaving ++ [.entropy []])
  obtain ⟨_, _, unwritten⟩ := finishCreate_replaces emptyMachine []
  have begun : (Reply.pending? (beginning.run emptyMachine).answer).isSome = true := by
    decide +kernel
  obtain ⟨handedOut, answered⟩ := Option.isSome_iff_exists.mp begun
  exact ⟨⟨pending, member,
    ((finished {} 3 pending _ vault stored verified).1 enough).1,
    ((refused {} 3 pending _ vault stored verified).2 (by decide)).1, vault, stored,
    replaced (finishing pending) vault stored⟩, unwritten beginning handedOut [] answered rfl⟩

/-- A stored vault does not always keep a new wallet from being finished. -/
theorem finishCreate_not_refused :
    ¬ ∀ (machine : Machine) (events : List Event) policy challengeWords pending answers vault,
      let session := (Session.mk machine [] [] none).run events
      pending ∈ session.pendings → session.machine.vault = some vault →
        pending.challenge.verify pending.phrase answers = true →
          let outcome := (Call.mk policy challengeWords (.finishCreate pending answers)).run
            session.machine
          outcome.answer = .error .vaultExists ∧ outcome.machine.vault = some vault := by
  intro refuses
  obtain ⟨enough, ⟨vault, stored⟩, pending, member, verified⟩ := interleaved_meets
  obtain ⟨refused, _⟩ :=
    refuses emptyMachine interleaving {} 3 pending _ vault member stored verified
  obtain ⟨inner, answered, finishes⟩ := Ends.of_finishCreate
    (Call.run_ends ⟨{}, 3, .finishCreate pending _⟩ interleaved.machine)
  obtain ⟨rfl, _⟩ := (finishes.of_verified verified).1 enough
  cases refused.symm.trans answered

end Session

end SeedVault
