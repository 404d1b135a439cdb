/-
Making a new wallet at the terminal. What is printed is what is sealed: the command succeeds
exactly if the password, the backup and the random bytes are right, and then the vault opens to
the seed of the words on the screen. If it fails, the vault stays as it was.
-/

import SeedVault.Proofs.Command.Backup
import SeedVault.Proofs.Phrase.Codec
import SeedVault.Proofs.Wallet.Policy

namespace SeedVault

namespace Wallet

variable {policy : Password.Policy} {challengeWords : Nat} {password confirmation : String}
  {machine after : Machine}

theorem begins_of_execute {answer : Except WalletError PendingWallet}
    (ran : execute ((inMemory policy challengeWords).beginCreate password confirmation) machine =
      (answer, after)) :
    ∃ accesses, Begins policy challengeWords password confirmation machine answer accesses after :=
  (beginCreate_meets rfl password confirmation).unrecorded
    ((Recorder.alike policy challengeWords).beginCreate Recorder.drawsAlike password confirmation)
    ran

theorem beginCreate_preserves_vault : Preserves Machine.vault
    ((inMemory policy challengeWords : Wallet (StateM Machine)).beginCreate password
      confirmation) := by
  intro machine
  rcases ran : execute ((inMemory policy challengeWords).beginCreate password confirmation)
    machine with ⟨answer, after⟩
  obtain ⟨_, begins⟩ := begins_of_execute ran
  exact begins.writes.unchanged

/-- A new wallet is begun over an empty store with a good password and 48 random bytes. -/
theorem beginCreate_eq_ok_iff {pending : PendingWallet} :
    execute ((inMemory policy challengeWords).beginCreate password confirmation) machine =
        (.ok pending, after) ↔
      machine.vault = none ∧ policy.minLength ≤ password.length ∧ password = confirmation ∧
        ∃ (phrase : Phrase) (key : Bytes 32) (rest : List UInt8),
          pending = ⟨phrase, .ofKey challengeWords key, password, Password.analyse password⟩ ∧
          machine.entropy = phrase.entropy.toList ++ (key.toList ++ rest) ∧
          after = { machine with entropy := rest } := by
  constructor
  · intro ran
    obtain ⟨_, begins⟩ := begins_of_execute ran
    generalize answered : Except.ok pending = answer at begins
    cases begins with
    | vaultExists | refused | noPhrase | noChallenge => cases answered
    | @begun analysis entropy key rest empty checked enough =>
        obtain ⟨long, confirmed, rfl⟩ := Password.Policy.check_eq_ok_iff.mp checked
        exact ⟨empty, long, confirmed, ⟨entropy⟩, key, rest, Except.ok.inj answered, enough, rfl⟩
  · rintro ⟨empty, long, confirmed, phrase, key, rest, rfl, enough, rfl⟩
    have good := Password.Policy.check_eq_ok_iff.mpr ⟨long, confirmed, rfl⟩
    have length := Bytes.add_le_length enough
    rcases ran : execute ((inMemory policy challengeWords).beginCreate password confirmation)
      machine with ⟨answer, reached⟩
    obtain ⟨_, begins⟩ := begins_of_execute ran
    cases begins with
    | vaultExists stored => cases empty.symm.trans stored
    | refused _ refused => cases good.symm.trans refused
    | noPhrase _ _ short => omega
    | noChallenge _ _ taken short =>
        rw [taken, List.length_append, Vector.length_toList] at length
        omega
    | begun _ checked taken =>
        obtain ⟨rfl, more⟩ := Bytes.append_inj (taken.symm.trans enough)
        obtain ⟨rfl, rfl⟩ := Bytes.append_inj more
        obtain ⟨_, _, rfl⟩ := Password.Policy.check_eq_ok_iff.mp checked
        rfl

end Wallet

namespace Command

/-- What is written about a password. -/
def strengthReport (analysis : Password.Analysis) : String :=
  if analysis.strength = .strong then ""
  else s!"Password strength: {analysis.strength.label}" ++ "\n" ++
    String.join (analysis.warnings.map fun warning => s!"  - {warning.message}" ++ "\n")

/-- The numbers of the words of a phrase, all two characters wide. -/
def wordNumbers : List String :=
  [" 1", " 2", " 3", " 4", " 5", " 6", " 7", " 8", " 9", "10", "11", "12"]

/-- The list of the words of a phrase: each of them on a line, after its number. -/
def wordLines (words : List String) : List String :=
  List.zipWith (fun number word => number ++ ". " ++ word ++ "\n") wordNumbers words

/-- What is written to show a new phrase. -/
def phraseSheet (phrase : Phrase) : String :=
  "" ++ "\n" ++
    ("Write down your recovery phrase. It is the only way to restore this wallet." ++ "\n") ++
    ("" ++ "\n") ++
    String.join (wordLines phrase.words) ++
    ("" ++ "\n")

theorem toString_eq_wordNumber (place : Fin 12) :
    String.ofList (List.replicate (2 - (toString (place.val + 1)).length) ' ') ++
      toString (place.val + 1) = wordNumbers[place] := by
  revert place
  decide +kernel

theorem numbered_eq {place : Nat} (listed : place < wordNumbers.length) (word : String) :
    numbered place word = wordNumbers[place] ++ ". " ++ word :=
  congrArg (· ++ ". " ++ word) (toString_eq_wordNumber ⟨place, listed⟩)

/-- Twelve words are listed by their numbers. -/
theorem map_numbered_eq_wordLines {words : List String} (length : words.length = 12) :
    (words.zipIdx.map fun item => numbered item.2 item.1 ++ "\n") = wordLines words := by
  apply List.ext_getElem
  · simp [wordLines, wordNumbers, length]
  · intro place inLines inSheet
    have twelve : place < 12 := by
      simpa [length] using inLines
    have listed : place < wordNumbers.length := twelve
    simp only [wordLines, List.getElem_map, List.getElem_zipIdx, List.getElem_zipWith, Nat.zero_add]
    rw [numbered_eq listed]

theorem execute_sayStrength (analysis : Password.Analysis) (machine : Machine) :
    execute (sayStrength analysis : ExceptT CommandError (StateM Machine) Unit) machine =
      (.ok (), machine.write (strengthReport analysis)) := by
  rw [sayStrength, strengthReport]
  split
  · rw [Machine.write_empty]
    rfl
  · rw [execute_bind, execute_say]
    dsimp only
    rw [execute_forM_say, Machine.write_write]

theorem execute_sayPhrase (phrase : Phrase) (machine : Machine) :
    execute (sayPhrase phrase : ExceptT CommandError (StateM Machine) Unit) machine =
      (.ok (), machine.write (phraseSheet phrase)) := by
  rw [sayPhrase, phraseSheet]
  simp only [execute_bind, execute_say, Machine.write_write]
  rw [execute_forM_say phrase.words.zipIdx fun item => numbered item.2 item.1,
    map_numbered_eq_wordLines phrase.length_words]
  dsimp only
  rw [Machine.write_write, Machine.write_write, ← String.append_assoc]

variable {policy : Password.Policy} {challengeWords : Nat} {machine after : Machine}

/-- A new wallet is made over an empty store, and no step on the way fails. -/
theorem create_eq_ok_iff :
    execute (create (.inMemory policy challengeWords)) machine = (.ok (), after) ↔
      machine.vault = none ∧
        ∃ password first confirmation asked pending begun unlocked confirmed,
          TypesSecret "New vault password:" machine password first ∧
          TypesSecret "Confirm password:" first confirmation asked ∧
          execute ((Wallet.inMemory policy challengeWords).beginCreate password confirmation)
            asked = (.ok pending, begun) ∧
          execute (confirmBackup (.inMemory policy challengeWords) pending 2)
            (begun.write (strengthReport pending.analysis ++ phraseSheet pending.phrase)) =
              (.ok unlocked, confirmed) ∧
          after = confirmed.write (s!"Wallet created: {unlocked.address.text}" ++ "\n") := by
  rw [create, execute_bind, execute_hasVault]
  cases stored : machine.vault with
  | some vault =>
      constructor
      · rintro ⟨⟩
      · rintro ⟨⟨⟩, _⟩
  | none =>
      simp only [Option.isSome_none, Bool.false_eq_true, if_false, execute_bind_eq_ok_iff,
        execute_adapt_eq_ok_iff, askSecret, Terminal.execute_askSecret_eq_ok_iff,
        execute_sayStrength, execute_sayPhrase, execute_say, true_and,
        Prod.mk.injEq]
      constructor
      · rintro ⟨password, first, typed, confirmation, asked, typedAgain, pending, begun, began,
          _, _, rfl, _, _, rfl, unlocked, confirmed, ran, rfl⟩
        rw [Machine.write_write] at ran
        exact ⟨password, first, confirmation, asked, pending, begun, unlocked, confirmed, typed,
          typedAgain, began, ran, rfl⟩
      · rintro ⟨password, first, confirmation, asked, pending, begun, unlocked, confirmed, typed,
          typedAgain, began, ran, rfl⟩
        rw [← Machine.write_write] at ran
        exact ⟨password, first, typed, confirmation, asked, typedAgain, pending, begun, began,
          (), _, rfl, (), _, rfl, unlocked, confirmed, ran, rfl⟩

end Command

/-- What is typed, drawn and stored when a new wallet is made. -/
structure Creation where
  password : String
  phrase : Phrase
  /-- The random bytes that select the words to be asked back. -/
  key : Bytes 32
  /-- The answers of the rounds before the last one. -/
  wrong : List (List String)
  right : List String
  salt : Bytes 16
  iv : Bytes 16

namespace Creation

def seed (creation : Creation) : Seed :=
  Seed.ofPhrase creation.phrase

def vault (creation : Creation) : Vault :=
  Vault.lockWith creation.seed creation.password creation.salt creation.iv

/-- The lines that are typed after the password and its confirmation. -/
def answers (creation : Creation) : List String :=
  creation.wrong.flatten ++ creation.right

variable (creation : Creation) (policy : Password.Policy) (challengeWords : Nat)
  (machine after : Machine)

def challenge : Challenge :=
  .ofKey challengeWords creation.key

def pending : PendingWallet :=
  ⟨creation.phrase, creation.challenge challengeWords, creation.password,
    Password.analyse creation.password⟩

/-- What is written after the password and its confirmation. -/
def transcript : String :=
  Command.strengthReport (Password.analyse creation.password) ++
    Command.phraseSheet creation.phrase ++
    (String.join (creation.wrong.map fun _ =>
        Command.wrongRound (creation.challenge challengeWords)) ++
      Command.wordPrompts (creation.challenge challengeWords) ++
      (s!"Wallet created: {creation.seed.address.text}" ++ "\n"))

theorem isSeal : creation.vault.IsSeal (creation.seed, creation.password) :=
  ⟨creation.salt, creation.iv, rfl⟩

/-- A new wallet is made in this way on a machine, and this is what is left. The words that are
asked back are right in the last round and in none before, and there are at most three. -/
structure Describes : Prop where
  empty : machine.vault = none
  long : policy.minLength ≤ creation.password.length
  few : creation.wrong.length ≤ 2
  wrong : ∀ answers ∈ creation.wrong,
    answers.length = (creation.challenge challengeWords).places.length ∧
      answers.map Challenge.normalForm ≠
        (creation.challenge challengeWords).places.map creation.phrase.word
  right : creation.right.map Challenge.normalForm =
    (creation.challenge challengeWords).places.map creation.phrase.word
  drawn : machine.entropy = creation.phrase.entropy.toList ++ (creation.key.toList ++
    (creation.salt.toList ++ (creation.iv.toList ++ after.entropy)))
  typed : ∃ first asked,
    TypesSecret "New vault password:" machine creation.password first ∧
    TypesSecret "Confirm password:" first creation.password asked ∧
    TypesAll asked.input creation.answers after.input ∧
    after = (asked.exchange (creation.transcript challengeWords) after.input).storing
      creation.vault after.entropy

namespace Describes

variable {creation policy challengeWords machine after}

theorem stored (describes : creation.Describes policy challengeWords machine after) :
    after.vault = some creation.vault := by
  obtain ⟨_, _, _, _, _, left⟩ := describes.typed
  rw [left]
  rfl

/-- Without a keyboard of its own, all that is typed is in the input. -/
theorem of_shared (describes : creation.Describes policy challengeWords machine after)
    (shared : machine.keyboard = .shared) :
    TypesAll machine.input (creation.password :: creation.password :: creation.answers)
        after.input ∧
      after.output = machine.output ++ ("New vault password:" ++ " " ++
        ("Confirm password:" ++ " " ++ creation.transcript challengeWords)) := by
  obtain ⟨_, _, typed, typedAgain, typedAll, left⟩ := describes.typed
  obtain ⟨_, typedPassword, rfl⟩ := typed.of_shared shared
  obtain ⟨_, typedConfirmation, rfl⟩ := typedAgain.of_shared shared
  rw [Machine.exchange_exchange, Machine.exchange_exchange] at left
  exact ⟨.answer typedPassword (.answer typedConfirmation typedAll),
    congrArg Machine.output left⟩

end Describes

section

variable {creation policy machine} {rest entropy : List UInt8}

theorem execute_beginCreate (empty : machine.vault = none)
    (long : policy.minLength ≤ creation.password.length)
    (drawn : machine.entropy =
      creation.phrase.entropy.toList ++ (creation.key.toList ++ entropy)) :
    execute ((Wallet.inMemory policy challengeWords).beginCreate creation.password
        creation.password) machine =
      (.ok (creation.pending challengeWords), { machine with entropy }) :=
  Wallet.beginCreate_eq_ok_iff.mpr
    ⟨empty, long, rfl, creation.phrase, creation.key, entropy, rfl, drawn, rfl⟩

theorem execute_confirmBackup (few : creation.wrong.length ≤ 2)
    (wrong : ∀ answers ∈ creation.wrong,
      Command.IsRejected (creation.pending challengeWords) answers)
    (right : creation.right.map Challenge.normalForm =
      (creation.challenge challengeWords).places.map creation.phrase.word)
    (typed : TypesAll machine.input creation.answers rest)
    (drawn : machine.entropy = creation.salt.toList ++ (creation.iv.toList ++ entropy)) :
    execute (Command.confirmBackup (.inMemory policy challengeWords)
        (creation.pending challengeWords) 2) machine =
      (.ok ⟨creation.seed, .tagged⟩,
        (machine.exchange (String.join (creation.wrong.map fun _ =>
            Command.wrongRound (creation.challenge challengeWords)) ++
          Command.wordPrompts (creation.challenge challengeWords)) rest).storing
            creation.vault entropy) := by
  have length := congrArg List.length right
  rw [List.length_map, List.length_map] at length
  exact Command.confirmBackup_eq_ok_iff.mpr ⟨creation.wrong, creation.right, rest, few, wrong,
    length, typed, Wallet.finishCreate_eq_ok_iff.mpr ⟨Challenge.verify_eq_true_iff.mpr right, rfl,
      creation.salt, creation.iv, entropy, drawn, rfl⟩⟩

end

end Creation

namespace Command

variable {policy : Password.Policy} {challengeWords : Nat} {machine after : Machine}

/-- The command succeeds exactly if a new wallet is made on the machine. -/
theorem create_eq_ok_iff_describes :
    execute (create (.inMemory policy challengeWords)) machine = (.ok (), after) ↔
      ∃ creation : Creation, creation.Describes policy challengeWords machine after := by
  rw [create_eq_ok_iff]
  constructor
  · rintro ⟨empty, password, first, _, asked, pending, begun, unlocked, confirmed, typed,
      typedAgain, began, ran, rfl⟩
    obtain ⟨_, long, rfl, phrase, key, _, rfl, enough, rfl⟩ := Wallet.beginCreate_eq_ok_iff.mp began
    obtain ⟨wrong, right, rest, few, rejected, length, typedAll, finished⟩ :=
      confirmBackup_eq_ok_iff.mp ran
    obtain ⟨verified, rfl, salt, iv, entropy, enoughToSeal, rfl⟩ :=
      Wallet.finishCreate_eq_ok_iff.mp finished
    -- the bytes and the vault do not change while the secrets are typed
    rw [typedAgain.entropy_eq, typed.entropy_eq] at enough
    rw [Machine.storing_write, Machine.exchange_write, Machine.write_exchange]
    refine ⟨⟨password, phrase, key, wrong, right, salt, iv⟩, empty, long, few,
      fun answers member => isRejected_iff.mp (rejected answers member),
      Challenge.verify_eq_true_iff.mp verified, ?_, first, asked, typed, typedAgain, typedAll, ?_⟩
    · exact enough.trans (congrArg (fun rest => _ ++ (_ ++ rest)) enoughToSeal)
    · rfl
  · rintro ⟨creation, empty, long, few, wrong, right, drawn, first, asked, typed, typedAgain,
      typedAll, left⟩
    have began := Creation.execute_beginCreate challengeWords
      (typedAgain.vault_eq.trans (typed.vault_eq.trans empty)) long
      (typedAgain.entropy_eq.trans (typed.entropy_eq.trans drawn))
    refine ⟨empty, creation.password, first, creation.password, asked, _, _, _, _, typed,
      typedAgain, began, Creation.execute_confirmBackup challengeWords few
        (fun answers member => isRejected_iff.mpr (wrong answers member)) right typedAll rfl, ?_⟩
    rw [Machine.storing_write, Machine.exchange_write, Machine.write_exchange]
    exact left

theorem sayStrength_preserves_vault (analysis : Password.Analysis) :
    Preserves Machine.vault
      (sayStrength analysis : ExceptT CommandError (StateM Machine) Unit) := by
  intro machine
  rw [execute_sayStrength]
  rfl

theorem sayPhrase_preserves_vault (phrase : Phrase) :
    Preserves Machine.vault (sayPhrase phrase : ExceptT CommandError (StateM Machine) Unit) := by
  intro machine
  rw [execute_sayPhrase]
  rfl

/-- If no wallet is made, for whatever cause, then the vault stays as it is. -/
theorem create_reverts_vault :
    Reverts Machine.vault (create (.inMemory policy challengeWords) :
      ExceptT CommandError (StateM Machine) Unit) := by
  refine Reverts.bind (fun _ => rfl) fun stored => ?_
  cases stored with
  | true => exact .of_preserves (.throw _)
  | false =>
      refine .bind ((Terminal.askSecret_preserves_vault _).adapt _) fun password => ?_
      refine .bind ((Terminal.askSecret_preserves_vault _).adapt _) fun confirmation => ?_
      refine .bind (Wallet.beginCreate_preserves_vault.adapt _) fun pending => ?_
      refine .bind (sayStrength_preserves_vault _) fun _ => ?_
      refine .bind (sayPhrase_preserves_vault _) fun _ => ?_
      -- once the vault is stored only a line is written, which cannot fail
      refine .bind_of_ok (confirmBackup_reverts_vault 2) ?_
      intro unlocked state
      exact ⟨_, _, execute_say _ state⟩

/-- What is printed is what is saved, or nothing is saved. The command succeeds exactly if a new
wallet is made, and then the vault opens under the password to the seed of the phrase whose words
were printed. If it fails, for whatever cause, then the vault stays as it is. -/
theorem create_saves_printed (policy : Password.Policy) (challengeWords : Nat)
    (machine after : Machine) :
    (execute (create (.inMemory policy challengeWords)) machine = (.ok (), after) ↔
      ∃ creation : Creation, creation.Describes policy challengeWords machine after) ∧
    (∀ creation : Creation, creation.Describes policy challengeWords machine after →
      after.vault = some creation.vault ∧ creation.vault.isAuthenticated = true ∧
      creation.vault.unlock creation.password = .ok (Seed.ofPhrase creation.phrase) ∧
      creation.phrase.words.length = 12 ∧
      Phrase.ofWords creation.phrase.words = .ok creation.phrase ∧
      execute ((Wallet.inMemory policy challengeWords).unlock creation.password none) after =
        (.ok ⟨creation.seed, .tagged⟩, after) ∧
      (machine.keyboard = .shared →
        TypesAll machine.input (creation.password :: creation.password :: creation.answers)
          after.input ∧
        after.output = machine.output ++ ("New vault password:" ++ " " ++
          ("Confirm password:" ++ " " ++ creation.transcript challengeWords)))) ∧
    ∀ cause, execute (create (.inMemory policy challengeWords)) machine = (.error cause, after) →
      after.vault = machine.vault := by
  refine ⟨create_eq_ok_iff_describes, ?_, fun cause => create_reverts_vault machine cause after⟩
  intro creation describes
  have sealed := creation.isSeal
  have stored := describes.stored
  have opened := execute_unlock_of_isSeal stored sealed policy challengeWords
  exact ⟨stored, sealed.isAuthenticated, sealed.unlock, creation.phrase.length_words,
    creation.phrase.ofWords_words, opened, describes.of_shared⟩

end Command

namespace Creation

/-- The machine on which a new wallet is made in this way, without a keyboard of its own. -/
def start (creation : Creation) : Machine :=
  { disk := { start := [] }
    entropy := creation.phrase.entropy.toList ++ (creation.key.toList ++
      (creation.salt.toList ++ (creation.iv.toList ++ [])))
    input := inputOf (creation.password :: creation.password :: creation.answers) ++ [] }

/-- All random bytes are zero. The words asked back are mistaken once. -/
def zeros : Creation where
  password := "password"
  phrase := ⟨Vector.replicate 16 0⟩
  key := Vector.replicate 32 0
  wrong := [["abandon", "about", ""]]
  right := ["abandon", " Abandon", "ABANDON\t"]
  salt := Vector.replicate 16 0
  iv := Vector.replicate 16 0

theorem zeros_words :
    (zeros.challenge 3).places.map zeros.phrase.word = ["abandon", "abandon", "abandon"] := by
  decide +kernel

theorem zeros_describes :
    zeros.Describes {} 3 zeros.start ((zeros.start.exchange ("New vault password:" ++ " " ++
      ("Confirm password:" ++ " " ++ zeros.transcript 3)) []).storing zeros.vault []) where
  empty := rfl
  long := by decide +kernel
  few := by decide
  wrong := by
    have length := congrArg List.length zeros_words
    rw [List.length_map] at length
    rw [length, zeros_words]
    decide +kernel
  right := by
    rw [zeros_words]
    decide +kernel
  drawn := rfl
  typed := by
    have typeable : ∀ answer ∈ zeros.password :: zeros.password :: zeros.answers,
        IsTypeable answer := by
      decide +kernel
    obtain ⟨_, typed, others⟩ := TypesAll.cons_iff.mp (typesAll_inputOf typeable [])
    obtain ⟨_, typedAgain, typedAll⟩ := TypesAll.cons_iff.mp others
    refine ⟨_, _, .shown rfl typed, .shown rfl typedAgain, typedAll, ?_⟩
    rw [Machine.exchange_exchange, Machine.exchange_exchange]
    rfl

end Creation

/-- A wallet is made although the words were mistaken once, which were listed before, and without any
input none is. -/
theorem Command.create_saves_printed_zeros :
    (∃ after, execute (create (.inMemory {} 3)) Creation.zeros.start = (.ok (), after) ∧
      after.vault = some Creation.zeros.vault ∧
      Creation.zeros.vault.unlock "password" = .ok (Seed.ofPhrase Creation.zeros.phrase) ∧
      TypesAll Creation.zeros.start.input ["password", "password", "abandon", "about", "",
        "abandon", " Abandon", "ABANDON\t"] after.input ∧
      ∃ before later, after.output = before ++
        ("\nWrite down your recovery phrase. It is the only way to restore this wallet.\n\n" ++
          " 1. abandon\n 2. abandon\n 3. abandon\n 4. abandon\n 5. abandon\n 6. abandon\n" ++
          " 7. abandon\n 8. abandon\n 9. abandon\n10. abandon\n11. abandon\n12. about\n\n") ++
        later) ∧
    ∃ cause after,
      execute (create (.inMemory {} 3)) { Creation.zeros.start with input := [] } =
        (.error cause, after) ∧ after.vault = none := by
  constructor
  · obtain ⟨succeeds, opens, _⟩ := create_saves_printed {} 3 Creation.zeros.start _
    obtain ⟨stored, _, unlocked, _, _, _, shared⟩ := opens _ Creation.zeros_describes
    obtain ⟨typed, written⟩ := shared rfl
    have sheet : phraseSheet Creation.zeros.phrase =
        "\nWrite down your recovery phrase. It is the only way to restore this wallet.\n\n" ++
        " 1. abandon\n 2. abandon\n 3. abandon\n 4. abandon\n 5. abandon\n 6. abandon\n" ++
        " 7. abandon\n 8. abandon\n 9. abandon\n10. abandon\n11. abandon\n12. about\n\n" := by
      decide +kernel
    obtain ⟨later, transcript⟩ : ∃ later, Creation.zeros.transcript 3 =
        strengthReport (Password.analyse "password") ++ phraseSheet Creation.zeros.phrase ++ later :=
      ⟨_, rfl⟩
    refine ⟨_, succeeds.mpr ⟨_, Creation.zeros_describes⟩, stored, unlocked, typed,
      Creation.zeros.start.output ++ ("New vault password:" ++ " " ++ ("Confirm password:" ++ " " ++
        strengthReport (Password.analyse "password"))), later, ?_⟩
    rw [written, transcript, sheet]
    simp only [String.append_assoc]
  · obtain ⟨_, _, fails⟩ := create_saves_printed {} 3 { Creation.zeros.start with input := [] } _
    have closed : execute (create (.inMemory {} 3)) { Creation.zeros.start with input := [] } =
        (.error (.terminal (.closed "New vault password")),
          Machine.exchange { Creation.zeros.start with input := [] }
            ("New vault password:" ++ " ") []) := rfl
    exact ⟨_, _, closed, fails _ closed⟩

end SeedVault
