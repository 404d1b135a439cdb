/-
Written vaults that are cut off. Whatever is missing at the end, be it the closing bracket only,
the text is not read as a vault, and the complaint is that it ends too early.
-/

import SeedVault.Proofs.Json.Cut
import SeedVault.Proofs.Store.Holding
import SeedVault.Proofs.Text.Ascii
import SeedVault.Proofs.Vault.Canonical

namespace SeedVault.Vault

open Json Text

/-- The quoted text in front of which there may be white space. -/
theorem readString_of_isCut {before written cut : List Char} {content : List Char}
    (blank : Blank before) (spells : Spells written content)
    (isCut : IsCut cut (before ++ '"' :: (written ++ ['"']))) : EndsEarly (readString cut) := by
  unfold readString
  rcases skipBlank_of_isCut blank isCut with gone | ⟨tail, rfl, inside⟩
  · rw [gone]
    exact .of_eq rfl rfl
  · rw [skipBlank_append_cons blank rfl]
    exact readText_of_isCut spells inside

theorem readContent_of_isCut {field : Field} {content : Option String} {before value cut : List Char}
    (blank : Blank before) (isContent : IsContent field content value)
    (isCut : IsCut cut (before ++ value)) : EndsEarly (readContent field cut) := by
  cases isContent with
  | text spells =>
      rw [List.cons_append] at isCut
      have ends := readString_of_isCut blank spells isCut
      cases field with
      | ciphertext | salt | iv => exact ends.map _
      | mac =>
          change EndsEarly (readOptionalField cut)
          unfold readOptionalField
          rcases skipBlank_of_isCut blank isCut with gone | ⟨tail, rfl, inside⟩
          · rw [gone]
            exact ends.map _
          · rw [skipBlank_append_cons blank rfl]
            exact ends.map _
  | null =>
      change EndsEarly (readOptionalField cut)
      unfold readOptionalField
      rcases skipBlank_of_isCut blank isCut with gone | ⟨tail, rfl, inside⟩
      · rw [gone]
        refine EndsEarly.map ?_ _
        unfold readString
        rw [gone]
        exact .of_eq rfl rfl
      · rw [skipBlank_append_cons blank rfl]
        exact (literal_of_isCut inside).map _

/-- After a comma the next key is due. -/
theorem readKey_of_comma {blank : List Char} (isBlank : Blank blank) (tail : List Char) :
    readKey false (blank ++ ',' :: tail) =
      match skipBlank tail with
      | [] => .error .endOfValue
      | '}' :: _ => .error .trailingComma
      | '"' :: rest => (readText rest).map fun (key, rest) => (some key, rest)
      | _ => .error .keyDue := by
  unfold readKey
  rw [skipBlank_append_cons isBlank rfl]
  rfl

theorem readKey_of_gone {text : List Char} (gone : skipBlank text = []) (first : Bool) :
    EndsEarly (readKey first text) := by
  rw [readKey, gone]
  exact .of_eq rfl rfl

theorem readKey_of_isCut {first : Bool} {key : String} {lead cut : List Char}
    (isKey : IsKey key first lead) (isCut : IsCut cut lead) : EndsEarly (readKey first cut) := by
  obtain @⟨comma, before, written, isComma, blank, spells⟩ := isKey
  cases isComma with
  | first =>
      rw [List.nil_append, List.append_assoc, List.cons_append] at isCut
      rcases skipBlank_of_isCut blank isCut with gone | ⟨tail, rfl, inside⟩
      · exact readKey_of_gone gone true
      · rw [readKey, skipBlank_append_cons blank rfl]
        exact (readText_of_isCut spells inside).map _
  | @next ahead isBlank =>
      simp only [List.append_assoc, List.cons_append, List.nil_append] at isCut
      rcases skipBlank_of_isCut isBlank isCut with gone | ⟨tail, rfl, inside⟩
      · exact readKey_of_gone gone false
      · rw [readKey_of_comma isBlank]
        rcases skipBlank_of_isCut blank inside with gone | ⟨text, rfl, cutText⟩
        · rw [gone]
          exact .of_eq rfl rfl
        · rw [skipBlank_append_cons blank rfl]
          exact (readText_of_isCut spells cutText).map _

theorem readMember_of_isCut {draft : Draft} {field : Field} {content : Option String}
    {middle ahead value cut : List Char} (absent : draft.get field = none) (blank : Blank middle)
    (blankAhead : Blank ahead) (isContent : IsContent field content value)
    (isCut : IsCut cut (middle ++ ':' :: (ahead ++ value))) :
    EndsEarly (readMember draft field.name cut) := by
  have missing : ¬ draft.has field = true := by
    rw [Draft.has_eq_isSome_get, absent]
    exact Bool.false_ne_true
  unfold readMember
  rw [ofName?_eq_some_iff.mpr rfl]
  dsimp only
  rw [if_neg missing]
  rcases skipBlank_of_isCut blank isCut with gone | ⟨tail, rfl, inside⟩
  · have ends : EndsEarly (skipColon cut) := by
      rw [skipColon, gone]
      exact .of_eq rfl rfl
    exact ends.bind _
  · rw [skipColon_eq_ok_iff.mpr ⟨middle, blank, rfl⟩]
    change EndsEarly (readKnown draft field tail)
    rw [readKnown_eq]
    exact (readContent_of_isCut blankAhead isContent inside).map _

/-- An object of fields that is cut off ends too early. The induction is on the members: the text
is cut in the key, in the value or behind the member. -/
theorem readMembers_of_isCut {first : Bool} {draft last : Draft} {members : List Member}
    {remainder cut : List Char} (gathers : Gathers draft members last)
    (known : ∀ member ∈ members, Field.ofName? member.1 ≠ none)
    (isRemainder : IsRemainder first members remainder) (isCut : IsCut cut (remainder ++ ['}'])) :
    EndsEarly (readMembers first draft cut) := by
  have ends {first : Bool} {draft : Draft} {cut : List Char} (ends : EndsEarly (readKey first cut)) :
      EndsEarly (readMembers first draft cut) := by
    obtain ⟨problem, failed, early⟩ := ends
    refine .of_eq ?_ early
    rw [readMembers, failed]
  induction gathers generalizing first remainder cut with
  | nil =>
      cases isRemainder with
      | close blank =>
          apply ends
          rcases skipBlank_of_isCut blank isCut with gone | ⟨_, _, inside⟩
          · exact readKey_of_gone gone first
          · exact absurd inside IsCut.not_nil
      | more _ separated => cases separated
  | @cons draft next last member members takes _ ih =>
      obtain ⟨lead, middle, ahead, behind, isKey, blank, blankAhead, isJson, behindMember, rfl⟩ :=
        isRemainder.exists_cons
      rw [List.forall_mem_cons] at known
      cases takes with
      | unknown unknown => exact absurd unknown known.1
      | @known field content value absent isContent =>
          have layout : lead ++ (middle ++ ':' :: (ahead ++ (value ++ behind))) ++ ['}'] =
              lead ++ ((middle ++ ':' :: (ahead ++ value)) ++ (behind ++ ['}'])) := by simp
          rw [layout] at isCut
          rcases isCut.append_cases with cutKey | ⟨tail, rfl, behindKey⟩
          · exact ends (readKey_of_isCut isKey cutKey)
          · rcases behindKey.append_cases with cutMember | ⟨rest, rfl, cutBehind⟩
            · obtain ⟨problem, failed, early⟩ :=
                readMember_of_isCut absent blank blankAhead isContent cutMember
              refine .of_eq ?_ early
              rw [readMembers, readKey_complete isKey]
              dsimp only
              rw [failed]
            · have endsValue := (behindMember.endsValue []).of_isCut cutBehind
              have read := readMembers_cons isKey blank blankAhead isJson
                (.known absent isContent) endsValue
              simp only [List.append_assoc, List.cons_append] at read ⊢
              rw [read]
              exact ih known.2 behindMember cutBehind

/-- An object of fields only, cut off anywhere, ends too early. -/
theorem readRecord_of_isCut {record : Record} {members : List Member} {text cut : List Char}
    (separated : Separated IsMember members text) (states : FromMembers record members)
    (known : ∀ member ∈ members, Field.ofName? member.1 ≠ none)
    (isCut : IsCut cut ('{' :: text ++ ['}'])) : EndsEarly (readRecord cut) := by
  rcases isCut.cons_cases with rfl | ⟨tail, rfl, inside⟩
  · exact .of_eq rfl rfl
  · obtain ⟨last, gathers, _⟩ := gathers_of_fromMembers states
    unfold readRecord
    rw [skipBlank_cons rfl]
    exact readMembers_of_isCut gathers known (.more .first separated) inside

theorem ofText_of_endsEarly {text : String} (ends : EndsEarly (readRecord text.toList)) :
    ∃ problem, ofText text = .error (.json problem) ∧ problem.isEndOfInput = true := by
  obtain ⟨problem, failed, early⟩ := ends
  refine ⟨problem, ?_, early⟩
  rw [ofText, failed]
  rfl

theorem ofName?_of_mem_members (vault : Vault) {member : String × String}
    (isMember : member ∈ vault.members) : Field.ofName? member.1 ≠ none := by
  obtain ⟨field, bytes, rfl⟩ := vault.exists_of_mem_members isMember
  rw [ofName?_eq_some_iff.mpr rfl]
  exact Option.some_ne_none field

/-- A vault is written in one of two forms, and the text is cut off. -/
theorem readRecord_of_isCut_written (vault : Vault) {text : String}
    (written : text = vault.compactText ∨ text = vault.prettyText) {cut : List Char}
    (isCut : IsCut cut text.toList) : EndsEarly (readRecord cut) := by
  have known (member : String × String) (isMember : member ∈ vault.members) :
      Field.ofName? member.1 ≠ none := vault.ofName?_of_mem_members isMember
  rcases written with rfl | rfl
  · rw [← embeddedText_eq, embeddedText, Record.toList_text] at isCut
    refine readRecord_of_isCut (separated_intercalate fun field _ => isMember_spelledEntry field)
      vault.record.fromMembers_asSpelled ?_ isCut
    rw [← members_record] at known
    exact List.forall_mem_map.mpr known
  · rw [toList_prettyText] at isCut
    refine readRecord_of_isCut (separated_lines fun field member => vault.spells_members member)
      vault.fromMembers_record ?_ isCut
    exact List.forall_mem_map.mpr known

/-- Every reason that says that a text ends too early starts in the same way. -/
theorem message_of_isEndOfInput {problem : Problem} (early : problem.isEndOfInput = true) :
    ∃ kind, problem.message = "EOF while parsing" ++ kind := by
  cases problem with
  | endOfValue => exact ⟨" a value", rfl⟩
  | endOfList => exact ⟨" a list", rfl⟩
  | endOfObject => exact ⟨" an object", rfl⟩
  | endOfText => exact ⟨" a string", rfl⟩
  | _ => cases early

theorem isAscii_encode (bytes : List UInt8) : IsAscii (Hex.encode bytes).toList := by
  intro char member
  obtain ⟨_, found⟩ := (Hex.denotes_iff.mp (Hex.denotes_encode bytes)).1 char member
  exact Hex.toNat_lt_of_hexDigit? found

theorem isAscii_name (field : Field) : IsAscii field.name.toList := by
  cases field <;> decide

/-- What is written of a vault has one byte for each character. -/
theorem isAscii_written (vault : Vault) {text : String}
    (written : text = vault.compactText ∨ text = vault.prettyText) : IsAscii text.toList := by
  rcases written with rfl | rfl
  · rw [compactText_eq]
    cases vault.mac <;>
      simp only [tagMember, Option.map_none, Option.map_some, String.toList_append,
        IsAscii.append_iff, isAscii_encode, and_true] <;>
      decide
  · have lines (member : String × String) (isMember : member ∈ vault.members) :
        IsAscii (line member) := by
      obtain ⟨field, bytes, rfl⟩ := vault.exists_of_mem_members isMember
      simp only [line, IsAscii.append_iff, isAscii_encode, isAscii_name, and_true]
      decide
    rw [toList_prettyText, IsAscii.append_iff, IsAscii.cons_iff, IsAscii.append_iff,
      IsAscii.cons_iff]
    have separated : IsAscii ([',', '\n'].intercalate (vault.members.map line)) :=
      .intercalate (by decide) (List.forall_mem_map.mpr lines)
    exact ⟨⟨by decide, ⟨by decide, separated⟩, by decide⟩, by decide⟩

/-- A vault that is cut off is never read as a vault, neither with its tag nor without. Be it cut
off in its form without white space or in the one with a field a line, the complaint is that the
text ends too early. A file whose bytes are cut off is corrupt for the same reason. -/
theorem cut_never_read (vault : Vault) {text : String}
    (written : text = vault.compactText ∨ text = vault.prettyText) :
    (∀ cut more : String, more ≠ "" → text = cut ++ more →
      ∃ problem kind, ofText cut = .error (.json problem) ∧
        (TextError.json problem).detail = "EOF while parsing" ++ kind) ∧
    ∀ (path : Path) (machine : Machine) (cut more : List UInt8), more ≠ [] →
      utf8 text = cut ++ more → machine.disk.read path = .ok cut →
        ∃ problem kind,
          execute (Store.file path).get machine = (.error (.corrupt (.json problem)), machine) ∧
            (TextError.json problem).detail = "EOF while parsing" ++ kind := by
  have refused (cut more : String) (isMore : more ≠ "") (split : text = cut ++ more) :
      ∃ problem kind, ofText cut = .error (.json problem) ∧
        (TextError.json problem).detail = "EOF while parsing" ++ kind := by
    have isCut : IsCut cut.toList text.toList := by
      rw [split, String.toList_append]
      cases behind : more.toList with
      | nil => exact absurd (String.toList_eq_nil_iff.mp behind) isMore
      | cons char rest => exact ⟨char, rest, rfl⟩
    obtain ⟨problem, failed, early⟩ :=
      ofText_of_endsEarly (vault.readRecord_of_isCut_written written isCut)
    obtain ⟨kind, message⟩ := message_of_isEndOfInput early
    exact ⟨problem, kind, failed, message⟩
  refine ⟨refused, ?file⟩
  case file =>
    intro path machine cut more isMore split reads
    obtain ⟨front, back, same, rfl, rfl⟩ :=
      (vault.isAscii_written written).exists_of_utf8_eq_append split
    have isBack : back ≠ "" := by
      rintro rfl
      exact isMore rfl
    obtain ⟨problem, kind, failed, message⟩ := refused front back isBack same
    refine ⟨problem, kind, ?_, message⟩
    change execute (Store.readFile path) machine = _
    rw [execute_readFile, reads]
    dsimp only
    rw [ofUtf8?_utf8]
    dsimp only
    rw [failed]
    rfl

/-- A vault with a tag that is cut off before its tag is no vault without one. -/
theorem cut_never_read_before_tag :
    let tag : Bytes 32 := Vector.replicate 32 4
    let vault : Vault :=
      ⟨Vector.replicate 32 1, Vector.replicate 16 2, Vector.replicate 16 3, some tag⟩
    let cut := "\x7b\"ciphertext\":\"" ++ Hex.encode vault.ciphertext.toList ++ "\",\"salt\":\"" ++
      Hex.encode vault.salt.toList ++ "\",\"iv\":\"" ++ Hex.encode vault.iv.toList ++ "\""
    let machine : Machine :=
      { disk := { start := [], nodes := [(["vault.json"], .file 0o600 (utf8 cut))] } }
    vault.compactText = cut ++ (tagMember (some (Hex.encode tag.toList)) ++ "\x7d") ∧
      (∃ problem kind, ofText cut = .error (.json problem) ∧
        (TextError.json problem).detail = "EOF while parsing" ++ kind) ∧
      ∃ problem kind, execute (Store.file ⟨"vault.json", []⟩).get machine =
          (.error (.corrupt (.json problem)), machine) ∧
        (TextError.json problem).detail = "EOF while parsing" ++ kind := by
  intro tag vault cut machine
  have split : vault.compactText = cut ++ (tagMember (some (Hex.encode tag.toList)) ++ "\x7d") := by
    rw [compactText_eq, String.append_assoc]
    rfl
  have isMore : tagMember (some (Hex.encode tag.toList)) ++ "\x7d" ≠ "" := by decide
  have bytes := congrArg utf8 split
  rw [utf8_append] at bytes
  have reads : machine.disk.read ⟨"vault.json", []⟩ = .ok (utf8 cut) := rfl
  obtain ⟨refused, corrupt⟩ := cut_never_read vault (.inl rfl)
  exact ⟨split, refused cut _ isMore split, corrupt _ machine _ _ (by decide) bytes reads⟩

end SeedVault.Vault
