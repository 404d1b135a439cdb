/-
Questions that are asked one after another. Each of them takes one line of the input, whatever
was asked before it and whether or not it was answered.
-/

import SeedVault.Proofs.Terminal
import SeedVault.Proofs.Text.Lines

namespace SeedVault.Terminal

variable {machine : Machine} {text prompt kept : String} {isDropped : Char → Bool}

/-- A text and what is cut off at its end, which is as much as can be. -/
theorem dropEnd_eq_iff : dropEnd isDropped text = kept ↔
    ∃ dropped, text = kept ++ dropped ∧ (∀ char ∈ dropped.toList, isDropped char = true) ∧
      ∀ char ∈ kept.toList.getLast?, isDropped char = false := by
  rw [dropEnd]
  constructor
  · rintro rfl
    refine ⟨String.ofList (text.toList.reverse.takeWhile isDropped).reverse, ?joined, ?all, ?last⟩
    case joined =>
      rw [← String.ofList_append, ← List.reverse_append, List.takeWhile_append_dropWhile,
        List.reverse_reverse, String.ofList_toList]
    case all =>
      intro char member
      rw [String.toList_ofList, List.mem_reverse] at member
      exact List.all_eq_true.mp List.all_takeWhile char member
    case last =>
      intro char last
      rw [String.toList_ofList, List.getLast?_reverse] at last
      have first := List.head?_dropWhile_not isDropped text.toList.reverse
      rw [last] at first
      exact first
  · rintro ⟨dropped, rfl, all, last⟩
    have dropsAll : ∀ char ∈ dropped.toList.reverse, isDropped char = true := by
      intro char member
      exact all char (List.mem_reverse.mp member)
    have dropsNone : kept.toList.reverse.dropWhile isDropped = kept.toList.reverse := by
      rw [← List.head?_reverse] at last
      cases reversed : kept.toList.reverse with
      | nil => rfl
      | cons char others =>
          rw [reversed] at last
          rw [List.dropWhile_cons_of_neg (by simp [last char rfl])]
    rw [String.toList_append, List.reverse_append, List.dropWhile_append_of_pos dropsAll, dropsNone,
      List.reverse_reverse, String.ofList_toList]

/-- A line and what is answered by it. -/
def Answers (line answer : String) : Prop :=
  ∃ ending, line = answer ++ ending ∧
    (∀ char ∈ ending.toList, char = '\n' ∨ char = '\r') ∧
    ∀ char ∈ answer.toList.getLast?, char ≠ '\n' ∧ char ≠ '\r'

theorem withoutLineEnd_eq_iff {line answer : String} :
    withoutLineEnd line = answer ↔ Answers line answer := by
  rw [withoutLineEnd, dropEnd_eq_iff, Answers]
  simp

/-- A question of a dialogue. -/
structure Question where
  prompt : String
  isSecret : Bool
deriving DecidableEq

namespace Question

/-- Asks one question. -/
def ask (question : Question) : ExceptT TerminalError (StateM Machine) String :=
  if question.isSecret then Terminal.askSecret question.prompt else Terminal.ask question.prompt

/-- Asks some questions, going on after those that are not answered. -/
def askAll (questions : List Question) : StateM Machine (List (Except TerminalError String)) :=
  questions.mapM fun question => question.ask.run

/-- What is written for some questions. -/
def written (questions : List Question) : String :=
  String.join (questions.map fun question => question.prompt ++ " ")

/-- What a question is told if a line is left, and if none is. -/
def reply (question : Question) : Option String → Except TerminalError String
  | some line => .ok (withoutLineEnd line)
  | none => .error (.closed (topic question.prompt))

end Question

/-- The first line of a text is the first line of its bytes. -/
theorem takeLine_utf8 {line : String} {rest : List String} (cut : Text.lines text = line :: rest) :
    line ≠ "" ∧ Text.lines (String.join rest) = rest ∧
      Machine.takeLine (Text.utf8 text) = (Text.utf8 line, Text.utf8 (String.join rest)) := by
  have joined := Text.join_lines text
  rw [cut, String.join_cons] at joined
  have inLines := Text.lines_eq_iff.mp cut
  obtain ⟨filled, others, ends⟩ := Text.InLines.of_cons inLines
  refine ⟨?filled, ?others, Machine.takeLine_eq_iff.mpr ⟨?split, ?isLine⟩⟩
  case filled =>
    rintro rfl
    exact filled rfl
  case others =>
    rw [Text.lines_eq_iff, String.toList_join, List.flatMap_def]
    exact others
  case split => rw [← joined, Text.utf8_append]
  case isLine =>
    rcases ends with ⟨body, unbroken, ended⟩ | ⟨unbroken, last⟩
    · have broken : line = String.ofList body ++ "\n" := by
        rw [← String.toList_inj, ended, String.toList_append, String.toList_ofList]
        rfl
      rw [broken, Text.utf8_append]
      apply IsLine.ended
      rw [Text.mem_utf8_iff, String.toList_ofList]
      exact unbroken
    · rw [List.map_eq_nil_iff.mp last]
      apply IsLine.last
      rw [Text.mem_utf8_iff]
      exact unbroken

namespace Question

variable {question : Question} {questions : List Question}

theorem execute_ask (question : Question) (typed : machine.input = Text.utf8 text)
    (shared : machine.keyboard = .shared) :
    execute question.ask machine =
      (question.reply (Text.lines text).head?,
        machine.exchange (question.prompt ++ " ")
          (Text.utf8 (String.join (Text.lines text).tail))) := by
  have asks : execute question.ask machine = execute (Terminal.ask question.prompt) machine := by
    rw [Question.ask]
    split
    · exact execute_askSecret_of_shared shared question.prompt
    · rfl
  rw [asks]
  cases cut : Text.lines text with
  | nil =>
      have empty : text = "" := by
        rw [← String.toList_inj, ← (Text.lines_eq_iff.mp cut).flatten_eq]
        rfl
      have taken : Machine.takeLine machine.input = ([], []) := by
        rw [typed, empty]
        rfl
      rw [Terminal.execute_ask taken, if_pos rfl]
      rfl
  | cons line rest =>
      obtain ⟨filled, -, taken⟩ := takeLine_utf8 cut
      have someBytes : Text.utf8 line ≠ [] := by
        intro none
        exact filled (Text.utf8_injective none)
      rw [← typed] at taken
      rw [Terminal.execute_ask taken, if_neg someBytes, Text.ofUtf8?_utf8]
      rfl

theorem lines_tail (text : String) :
    Text.lines (String.join (Text.lines text).tail) = (Text.lines text).tail := by
  cases cut : Text.lines text with
  | nil => rfl
  | cons line rest => exact (takeLine_utf8 cut).2.1

/-- What was asked is only the first step. -/
theorem run_askAll_cons (question : Question) (questions : List Question) (machine : Machine) :
    (askAll (question :: questions)).run machine =
      ((execute question.ask machine).1 ::
          ((askAll questions).run (execute question.ask machine).2).1,
        ((askAll questions).run (execute question.ask machine).2).2) := by
  rw [askAll, List.mapM_cons]
  rfl

/-- The questions are answered by the lines in order, and what is left are the other lines. -/
theorem run_askAll (questions : List Question) (typed : machine.input = Text.utf8 text)
    (shared : machine.keyboard = .shared) :
    (askAll questions).run machine =
      (questions.mapIdx fun index question => question.reply (Text.lines text)[index]?,
        machine.exchange (written questions)
          (Text.utf8 (String.join ((Text.lines text).drop questions.length)))) := by
  induction questions generalizing machine text with
  | nil =>
      have left : Text.utf8 (String.join (Text.lines text)) = machine.input := by
        rw [Text.join_lines, typed]
      change ([], machine) = ([], machine.exchange "" (Text.utf8 (String.join (Text.lines text))))
      rw [left, Machine.exchange_empty]
  | cons question questions ih =>
      have others (rest : String) :=
        @ih (machine.exchange (question.prompt ++ " ") (Text.utf8 rest)) rest rfl shared
      rw [run_askAll_cons, execute_ask question typed shared]
      simp only [others, lines_tail, Machine.exchange_exchange, List.mapIdx_cons, written,
        List.map_cons, String.join_cons, List.length_cons, List.drop_tail, List.getElem?_tail,
        List.head?_eq_getElem?]

/-- A question that no line is left for is told what was waited for, and that is its prompt. -/
theorem reply_none (question : Question) :
    ∃ problem topic colons, question.reply none = .error problem ∧
      problem.message = "Input closed while waiting for: " ++ topic ∧
      question.prompt = topic ++ colons ∧ (∀ char ∈ colons.toList, char = ':') ∧
      ∀ char ∈ topic.toList.getLast?, char ≠ ':' := by
  obtain ⟨colons, split, all, last⟩ :=
    dropEnd_eq_iff.mp (Eq.refl (dropEnd (· == ':') question.prompt))
  refine ⟨_, _, colons, rfl, rfl, split, ?_, ?_⟩
  · intro char member
    exact eq_of_beq (all char member)
  · intro char isLast
    exact ne_of_beq_false (last char isLast)

end Question

/-- A text that is typed has its lines, which are cut after each line feed, and whatever is asked,
each question takes the line at its own place. It is answered by this line without the line feeds
and carriage returns at the end and with nothing else removed, so that a blank line is an empty
answer. A question after the last line is told that nothing is left to wait for. Each prompt and a
space are written in order, and the lines that were not taken are left, as is all else. -/
theorem questions_take_lines_in_order (typed : Text.ofUtf8? machine.input = some text)
    (shared : machine.keyboard = .shared) :
    ∃ lines : List String,
      (∀ others : List String,
        Text.InLines (others.map String.toList) text.toList ↔ others = lines) ∧
      ∀ questions : List Question, ∃ replies,
        (Question.askAll questions).run machine =
          (replies, machine.exchange (Question.written questions)
            (Text.utf8 (String.join (lines.drop questions.length)))) ∧
        replies.length = questions.length ∧
        ∀ index question, questions[index]? = some question →
          (∀ line, lines[index]? = some line →
            ∃ answer, Answers line answer ∧ replies[index]? = some (.ok answer)) ∧
          (lines[index]? = some "\n" → replies[index]? = some (.ok "")) ∧
          (lines.length ≤ index →
            ∃ problem topic colons, replies[index]? = some (.error problem) ∧
              problem.message = "Input closed while waiting for: " ++ topic ∧
              question.prompt = topic ++ colons ∧ (∀ char ∈ colons.toList, char = ':') ∧
              ∀ char ∈ topic.toList.getLast?, char ≠ ':') := by
  refine ⟨Text.lines text, ?cut, ?asked⟩
  case cut =>
    intro others
    rw [← Text.lines_eq_iff, eq_comm]
  case asked =>
    intro questions
    have ran := Question.run_askAll questions (Text.utf8_of_ofUtf8? typed).symm shared
    refine ⟨_, ran, List.length_mapIdx, ?_⟩
    intro index question present
    have replied : (questions.mapIdx fun index question =>
        question.reply (Text.lines text)[index]?)[index]? =
          some (question.reply (Text.lines text)[index]?) := by
      rw [List.getElem?_mapIdx, present]
      rfl
    rw [replied]
    refine ⟨?line, ?blank, ?closed⟩
    case line =>
      intro line found
      rw [found]
      exact ⟨withoutLineEnd line, withoutLineEnd_eq_iff.mp rfl, rfl⟩
    case blank =>
      intro found
      rw [found]
      rfl
    case closed =>
      intro past
      rw [List.getElem?_eq_none past]
      simp only [Option.some.injEq]
      exact question.reply_none

/-- A blank line between the others is an empty password, and the last line is not ended. -/
theorem questions_take_lines_in_order_blank :
    let machine : Machine := { disk := { start := [] }, input := Text.utf8 "pass\rword\r\n\nlast" }
    let questions : List Question :=
      [⟨"New vault password:", true⟩, ⟨"Confirm password:", true⟩, ⟨"Word #3:", false⟩,
        ⟨"Word #5:", false⟩]
    Text.ofUtf8? machine.input = some "pass\rword\r\n\nlast" ∧ machine.keyboard = .shared ∧
      ∃ replies, (Question.askAll questions).run machine =
          (replies, machine.exchange (Question.written questions) []) ∧
        replies.length = 4 ∧ replies[1]? = some (.ok "") ∧
        ∃ problem, replies[3]? = some (.error problem) := by
  intro machine questions
  have typed : Text.ofUtf8? machine.input = some "pass\rword\r\n\nlast" := Text.ofUtf8?_utf8 _
  obtain ⟨lines, cut, asked⟩ := questions_take_lines_in_order typed rfl
  have found : ["pass\rword\r\n", "\n", "last"] = lines :=
    (cut _).mp (Text.lines_eq_iff.mp (by decide))
  obtain ⟨replies, ran, counted, replied⟩ := asked questions
  rw [← found] at ran replied
  obtain ⟨problem, _, _, closed, _⟩ := (replied 3 ⟨"Word #5:", false⟩ rfl).2.2 (by decide)
  exact ⟨typed, rfl, replies, ran, counted, (replied 1 ⟨"Confirm password:", true⟩ rfl).2.1 rfl,
    problem, closed⟩

end SeedVault.Terminal
