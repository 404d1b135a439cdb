/-
What is written on the terminal of a machine and what is read there. A prompt is answered by
the next line of the input, and a secret perhaps at a keyboard of its own.
-/

import SeedVault.Command
import SeedVault.Machine
import SeedVault.Proofs.Execution
import SeedVault.Proofs.Text.Utf8

namespace SeedVault

/-- A line with its end, and what may follow it. The last line may be without an end. -/
inductive IsLine : List UInt8 → List UInt8 → Prop
  | ended {body rest : List UInt8} : 10 ∉ body → IsLine (body ++ [10]) rest
  | last {line : List UInt8} : 10 ∉ line → IsLine line []

namespace Machine

theorem takeLine_of_ended {body : List UInt8} (unbroken : 10 ∉ body) (rest : List UInt8) :
    takeLine (body ++ [10] ++ rest) = (body ++ [10], rest) := by
  induction body with
  | nil => rfl
  | cons byte body ih =>
      rw [List.mem_cons, not_or] at unbroken
      rw [List.cons_append, List.cons_append, takeLine, if_neg (Ne.symm unbroken.1),
        ih unbroken.2]

theorem takeLine_of_last {line : List UInt8} (unbroken : 10 ∉ line) :
    takeLine line = (line, []) := by
  induction line with
  | nil => rfl
  | cons byte line ih =>
      rw [List.mem_cons, not_or] at unbroken
      rw [takeLine, if_neg (Ne.symm unbroken.1), ih unbroken.2]

theorem isLine_takeLine (input : List UInt8) :
    input = (takeLine input).1 ++ (takeLine input).2 ∧
      IsLine (takeLine input).1 (takeLine input).2 := by
  induction input with
  | nil => exact ⟨rfl, .last List.not_mem_nil⟩
  | cons byte input ih =>
      obtain ⟨split, isLine⟩ := ih
      by_cases isEnd : byte = 10
      · rw [takeLine, if_pos isEnd, isEnd]
        exact ⟨rfl, @IsLine.ended [] _ List.not_mem_nil⟩
      · rw [takeLine, if_neg isEnd]
        refine ⟨congrArg (byte :: ·) split, ?_⟩
        dsimp only
        generalize takeLine input = taken at isLine
        obtain ⟨line, rest⟩ := taken
        cases isLine with
        | @ended body _ unbroken =>
            exact @IsLine.ended (byte :: body) rest
              (List.not_mem_cons_of_ne_of_not_mem (Ne.symm isEnd) unbroken)
        | last unbroken =>
            exact .last (List.not_mem_cons_of_ne_of_not_mem (Ne.symm isEnd) unbroken)

/-- A line is read up to the first line feed, or up to the end of the input. -/
theorem takeLine_eq_iff {input line rest : List UInt8} :
    takeLine input = (line, rest) ↔ input = line ++ rest ∧ IsLine line rest := by
  constructor
  · intro taken
    have split := isLine_takeLine input
    rw [taken] at split
    exact split
  · rintro ⟨rfl, isLine⟩
    cases isLine with
    | ended unbroken => exact takeLine_of_ended unbroken rest
    | last unbroken =>
        rw [List.append_nil]
        exact takeLine_of_last unbroken

end Machine

/-- The next line of an input is a given text, and something is left of the input. -/
def Types (input : List UInt8) (answer : String) (rest : List UInt8) : Prop :=
  ∃ line text, input = line ++ rest ∧ IsLine line rest ∧ line ≠ [] ∧
    Text.ofUtf8? line = some text ∧ Terminal.withoutLineEnd text = answer

/-- The next lines of an input are given texts, and something is left of the input. -/
inductive TypesAll : List UInt8 → List String → List UInt8 → Prop
  | nothing {input : List UInt8} : TypesAll input [] input
  | answer {input middle rest : List UInt8} {answer : String} {answers : List String} :
      Types input answer middle → TypesAll middle answers rest →
        TypesAll input (answer :: answers) rest

theorem TypesAll.nil_iff {input rest : List UInt8} : TypesAll input [] rest ↔ input = rest := by
  constructor
  · rintro ⟨⟩
    rfl
  · rintro rfl
    exact .nothing

theorem TypesAll.cons_iff {input rest : List UInt8} {answer : String} {answers : List String} :
    TypesAll input (answer :: answers) rest ↔
      ∃ middle, Types input answer middle ∧ TypesAll middle answers rest := by
  constructor
  · rintro (_ | ⟨first, others⟩)
    exact ⟨_, first, others⟩
  · rintro ⟨middle, first, others⟩
    exact .answer first others

theorem TypesAll.append_iff {input rest : List UInt8} {answers more : List String} :
    TypesAll input (answers ++ more) rest ↔
      ∃ middle, TypesAll input answers middle ∧ TypesAll middle more rest := by
  induction answers generalizing input with
  | nil => simp [nil_iff]
  | cons answer answers ih =>
      simp only [List.cons_append, cons_iff, ih]
      constructor
      · rintro ⟨first, typed, middle, others, further⟩
        exact ⟨middle, ⟨first, typed, others⟩, further⟩
      · rintro ⟨middle, ⟨first, typed, others⟩, further⟩
        exact ⟨first, typed, middle, others, further⟩

/-- A text is typed as a line if no line feed is in it and it does not end like a line. -/
def IsTypeable (answer : String) : Prop :=
  10 ∉ Text.utf8 answer ∧ Terminal.withoutLineEnd (answer ++ "\n") = answer

instance (answer : String) : Decidable (IsTypeable answer) :=
  inferInstanceAs (Decidable (_ ∧ _))

/-- The input in which the given lines are typed. -/
def inputOf (answers : List String) : List UInt8 :=
  answers.flatMap fun answer => Text.utf8 (answer ++ "\n")

theorem types_of_isTypeable {answer : String} (typeable : IsTypeable answer) (rest : List UInt8) :
    Types (Text.utf8 (answer ++ "\n") ++ rest) answer rest := by
  obtain ⟨unbroken, trimmed⟩ := typeable
  have ended : Text.utf8 (answer ++ "\n") = Text.utf8 answer ++ [10] :=
    Text.utf8_append answer "\n"
  refine ⟨_, answer ++ "\n", rfl, ?_, ?_, Text.ofUtf8?_utf8 _, trimmed⟩
  · rw [ended]
    exact .ended unbroken
  · rw [ended]
    exact List.append_ne_nil_of_right_ne_nil _ (List.cons_ne_nil _ _)

theorem typesAll_inputOf {answers : List String}
    (typeable : ∀ answer ∈ answers, IsTypeable answer) (rest : List UInt8) :
    TypesAll (inputOf answers ++ rest) answers rest := by
  induction answers with
  | nil => exact .nothing
  | cons answer answers ih =>
      rw [inputOf, List.flatMap_cons, List.append_assoc]
      exact .answer (types_of_isTypeable (typeable answer List.mem_cons_self) _)
        (ih fun other member => typeable other (List.mem_cons_of_mem _ member))

namespace Machine

/-- Writes on the terminal of a machine, and reads its input up to a given rest. -/
def exchange (machine : Machine) (text : String) (rest : List UInt8) : Machine :=
  { machine with input := rest, output := machine.output ++ text }

/-- Writes on the terminal of a machine. -/
def write (machine : Machine) (text : String) : Machine :=
  machine.exchange text machine.input

section

variable (machine : Machine) (text more : String) (rest further : List UInt8)

@[simp] theorem exchange_empty : machine.exchange "" machine.input = machine := by
  rw [exchange, String.append_empty]

@[simp] theorem exchange_exchange :
    (machine.exchange text rest).exchange more further = machine.exchange (text ++ more) further := by
  rw [exchange, exchange, exchange, String.append_assoc]

@[simp] theorem exchange_write :
    (machine.exchange text rest).write more = machine.exchange (text ++ more) rest :=
  exchange_exchange machine text more rest rest

@[simp] theorem write_exchange :
    (machine.write text).exchange more rest = machine.exchange (text ++ more) rest :=
  exchange_exchange machine text more machine.input rest

@[simp] theorem write_write : (machine.write text).write more = machine.write (text ++ more) :=
  exchange_exchange machine text more machine.input machine.input

@[simp] theorem write_empty : machine.write "" = machine :=
  exchange_empty machine

@[simp] theorem input_exchange : (machine.exchange text rest).input = rest := rfl

end

end Machine

namespace Terminal

theorem execute_say (text : String) (machine : Machine) :
    execute (say text : ExceptT TerminalError (StateM Machine) Unit) machine =
      (.ok (), machine.write (text ++ "\n")) := rfl

/-- A prompt is written, and then the next line is read. -/
theorem execute_ask {prompt : String} {machine : Machine} {line rest : List UInt8}
    (taken : Machine.takeLine machine.input = (line, rest)) :
    execute (ask prompt : ExceptT TerminalError (StateM Machine) String) machine =
      (if line = [] then .error (.closed (topic prompt))
        else match Text.ofUtf8? line with
          | some text => .ok (withoutLineEnd text)
          | none => .error .notUtf8,
        machine.exchange (prompt ++ " ") rest) := by
  change execute (ExceptT.lift (write (prompt ++ " ")) >>= _) machine = _
  rw [execute_bind, execute_lift]
  change execute (ExceptT.lift readLine >>= _) (machine.write (prompt ++ " ")) = _
  have read : (readLine : StateM Machine _).run (machine.write (prompt ++ " ")) =
      (line, machine.exchange (prompt ++ " ") rest) := by
    change ((Machine.takeLine machine.input).1,
      machine.exchange (prompt ++ " ") (Machine.takeLine machine.input).2) = _
    rw [taken]
  rw [execute_bind, execute_lift, read]
  cases line with
  | nil => rfl
  | cons byte line =>
      rw [if_neg (List.cons_ne_nil byte line)]
      dsimp only
      cases Text.ofUtf8? (byte :: line) <;> rfl

/-- A prompt is answered by the next line. -/
theorem execute_ask_eq_ok_iff {prompt answer : String} {machine after : Machine} :
    execute (ask prompt : ExceptT TerminalError (StateM Machine) String) machine =
        (.ok answer, after) ↔
      ∃ rest, Types machine.input answer rest ∧
        after = machine.exchange (prompt ++ " ") rest := by
  constructor
  · intro asked
    rcases taken : Machine.takeLine machine.input with ⟨line, rest⟩
    rw [execute_ask taken] at asked
    obtain ⟨split, isLine⟩ := Machine.takeLine_eq_iff.mp taken
    split at asked
    · cases asked
    · rename_i filled
      split at asked
      · rename_i text decoded
        cases asked
        exact ⟨rest, ⟨line, text, split, isLine, filled, decoded, rfl⟩, rfl⟩
      · cases asked
  · rintro ⟨rest, ⟨line, text, split, isLine, filled, decoded, rfl⟩, rfl⟩
    rw [execute_ask (Machine.takeLine_eq_iff.mpr ⟨split, isLine⟩), if_neg filled, decoded]

end Terminal

/-- How a secret is asked for: in the input, or at a keyboard of its own. -/
inductive TypesSecret (prompt : String) : Machine → String → Machine → Prop
  | shown {machine : Machine} {secret : String} {rest : List UInt8} :
      machine.keyboard = .shared → Types machine.input secret rest →
        TypesSecret prompt machine secret (machine.exchange (prompt ++ " ") rest)
  | hidden {machine : Machine} {secret : String} {keyboard : Keyboard} :
      machine.keyboard ≠ .shared → machine.keyboard.read (prompt ++ " ") = (some secret, keyboard) →
        TypesSecret prompt machine secret { machine with keyboard }

namespace TypesSecret

variable {prompt secret : String} {machine after : Machine}

theorem vault_eq (typed : TypesSecret prompt machine secret after) :
    after.vault = machine.vault := by
  cases typed <;> rfl

theorem entropy_eq (typed : TypesSecret prompt machine secret after) :
    after.entropy = machine.entropy := by
  cases typed <;> rfl

/-- Without a keyboard of its own a secret is the next line. -/
theorem of_shared (typed : TypesSecret prompt machine secret after)
    (shared : machine.keyboard = .shared) :
    ∃ rest, Types machine.input secret rest ∧ after = machine.exchange (prompt ++ " ") rest := by
  cases typed with
  | shown _ typed => exact ⟨_, typed, rfl⟩
  | hidden separate => exact absurd shared separate

end TypesSecret

namespace Terminal

/-- Asking for a secret at a keyboard of its own. -/
theorem execute_askSecret_of_ne {machine : Machine} (separate : machine.keyboard ≠ .shared)
    {prompt : String} {secret : Option String} {keyboard : Keyboard}
    (read : machine.keyboard.read (prompt ++ " ") = (secret, keyboard)) :
    execute (askSecret prompt : ExceptT TerminalError (StateM Machine) String) machine =
      (match secret with
        | some secret => .ok secret
        | none => .error (.unreadable (topic prompt)), { machine with keyboard }) := by
  have hides : (hidesSecrets : StateM Machine Bool).run machine = (true, machine) := by
    change (decide (machine.keyboard ≠ .shared), machine) = _
    rw [decide_eq_true separate]
  have hidden : (readHidden (prompt ++ " ") : StateM Machine (Option String)).run machine =
      (secret, { machine with keyboard }) := by
    change machine.readHidden (prompt ++ " ") = _
    rw [Machine.readHidden, read]
  change execute (ExceptT.lift hidesSecrets >>= _) machine = _
  rw [execute_bind, execute_lift, hides]
  dsimp only
  rw [if_pos rfl, execute_bind, execute_lift, hidden]
  cases secret <;> rfl

theorem execute_askSecret_of_shared {machine : Machine} (shared : machine.keyboard = .shared)
    (prompt : String) :
    execute (askSecret prompt : ExceptT TerminalError (StateM Machine) String) machine =
      execute (ask prompt) machine := by
  have hides : (hidesSecrets : StateM Machine Bool).run machine = (false, machine) := by
    change (decide (machine.keyboard ≠ .shared), machine) = _
    rw [decide_eq_false (Classical.not_not.mpr shared)]
  change execute (ExceptT.lift hidesSecrets >>= _) machine = _
  rw [execute_bind, execute_lift, hides]
  rfl

theorem execute_askSecret_eq_ok_iff {prompt secret : String} {machine after : Machine} :
    execute (askSecret prompt : ExceptT TerminalError (StateM Machine) String) machine =
        (.ok secret, after) ↔ TypesSecret prompt machine secret after := by
  by_cases shared : machine.keyboard = .shared
  · rw [execute_askSecret_of_shared shared, execute_ask_eq_ok_iff]
    constructor
    · rintro ⟨rest, typed, rfl⟩
      exact .shown shared typed
    · exact fun typed => typed.of_shared shared
  · rcases read : machine.keyboard.read (prompt ++ " ") with ⟨found, keyboard⟩
    rw [execute_askSecret_of_ne shared read]
    constructor
    · intro asked
      cases found with
      | none => cases asked
      | some found =>
          cases asked
          exact .hidden shared read
    · rintro (⟨shown, _⟩ | ⟨_, again⟩)
      · exact absurd shown shared
      · cases read.symm.trans again
        rfl

end Terminal

/-- All of a machine that no prompt has to do with. -/
def Machine.apart (machine : Machine) : Machine :=
  { machine with input := [], output := "", keyboard := .shared }

theorem TypesSecret.apart_eq {prompt secret : String} {machine after : Machine}
    (typed : TypesSecret prompt machine secret after) : after.apart = machine.apart := by
  cases typed <;> rfl

namespace Terminal

/-- A prompt touches nothing else, whether it is answered or not. -/
theorem ask_preserves_apart (prompt : String) :
    Preserves Machine.apart (ask prompt : ExceptT TerminalError (StateM Machine) String) := by
  intro machine
  rcases taken : Machine.takeLine machine.input with ⟨line, rest⟩
  rw [execute_ask taken]
  rfl

theorem askSecret_preserves_apart (prompt : String) :
    Preserves Machine.apart (askSecret prompt : ExceptT TerminalError (StateM Machine) String) := by
  intro machine
  by_cases shared : machine.keyboard = .shared
  · rw [execute_askSecret_of_shared shared]
    exact ask_preserves_apart prompt machine
  · rcases read : machine.keyboard.read (prompt ++ " ") with ⟨found, keyboard⟩
    rw [execute_askSecret_of_ne shared read]
    rfl

theorem ask_preserves_vault (prompt : String) :
    Preserves Machine.vault (ask prompt : ExceptT TerminalError (StateM Machine) String) := by
  intro machine
  have kept := congrArg Machine.vault (ask_preserves_apart prompt machine)
  exact kept

theorem askSecret_preserves_vault (prompt : String) :
    Preserves Machine.vault (askSecret prompt : ExceptT TerminalError (StateM Machine) String) := by
  intro machine
  have kept := congrArg Machine.vault (askSecret_preserves_apart prompt machine)
  exact kept

end Terminal

end SeedVault
