/-
Reading a list. Its elements are the contents of the fields in their order.
-/

import SeedVault.Proofs.Vault.Draft

namespace SeedVault.Vault

open Json

theorem readNext_sound {first more : Bool} {text rest : List Char}
    (read : readNext first text = .ok (more, rest)) :
    if more then ∃ comma before, IsComma first comma ∧ Blank before ∧ text = comma ++ (before ++ rest)
    else ∃ blank tail, Blank blank ∧ rest = ']' :: tail ∧ text = blank ++ rest := by
  unfold readNext at read
  split at read
  · cases read
  · rename_i skips
    obtain ⟨blank, isBlank, rfl⟩ := exists_blank_of_eq skips
    cases read
    exact ⟨blank, _, isBlank, rfl, rfl⟩
  · rename_i skips
    obtain ⟨blank, isBlank, rfl⟩ := exists_blank_of_eq skips
    cases first with
    | true =>
        rw [if_pos rfl] at read
        cases read
        exact ⟨[], blank, .first, isBlank, rfl⟩
    | false =>
        rw [if_neg Bool.false_ne_true] at read
        split at read
        · rename_i comma
          split at read
          · cases read
          · cases read
          · obtain ⟨before, isBlank', same⟩ := exists_blank _
            cases read
            rw [comma]
            refine ⟨_, before, .next isBlank, isBlank', ?_⟩
            rw [List.append_assoc, List.singleton_append, ← same]
        · cases read

theorem readNext_complete {first : Bool} {comma before value : List Char}
    (isComma : IsComma first comma) (blank : Blank before) (isJson : IsJson .value value)
    (rest : List Char) :
    readNext first (comma ++ (before ++ (value ++ rest))) = .ok (true, value ++ rest) := by
  obtain ⟨char, tail, rfl, solid, notClosing⟩ := isJson.exists_first
  rw [List.cons_append]
  have skips : skipBlank (before ++ char :: (tail ++ rest)) = char :: (tail ++ rest) :=
    skipBlank_append_cons blank solid _
  unfold readNext
  cases isComma with
  | first => simp [skips]
  | @next outside isBlank =>
      have comes : skipBlank (outside ++ ',' :: (before ++ char :: (tail ++ rest))) =
          ',' :: (before ++ char :: (tail ++ rest)) :=
        skipBlank_append_cons isBlank rfl _
      simp only [List.append_assoc, List.cons_append, List.nil_append, comes, Char.reduceEq,
        imp_self, Bool.false_eq_true, ↓reduceIte, skips]
      split
      case h_1 absurdity => cases absurdity
      case h_2 closing =>
        cases closing
        exact absurd rfl notClosing
      case h_3 => rfl

theorem readNext_of_closing {blank : List Char} (isBlank : Blank blank) (first : Bool)
    (rest : List Char) : readNext first (blank ++ ']' :: rest) = .ok (false, ']' :: rest) := by
  unfold readNext
  rw [skipBlank_append_cons isBlank rfl]
  rfl

theorem readListEnd_eq_ok_iff {text rest : List Char} :
    readListEnd text = .ok rest ↔ ∃ blank, Blank blank ∧ text = blank ++ ']' :: rest := by
  unfold readListEnd
  constructor
  · intro read
    split at read
    · cases read
    · rename_i skips
      cases read
      exact exists_blank_of_eq skips
    · split at read <;> cases read
    · cases read
  · rintro ⟨blank, isBlank, rfl⟩
    rw [skipBlank_append_cons isBlank rfl]
    rfl

theorem readItem_sound {count : Nat} {text rest : List Char} {content : String} (field : Field)
    (read : readItem count text = .ok (content, rest)) :
    ∃ comma before value, IsComma (count == 0) comma ∧ Blank before ∧
      IsContent field (some content) value ∧ text = comma ++ (before ++ (value ++ rest)) := by
  obtain ⟨⟨more, tail⟩, nextRead, itemRead⟩ := bind_eq_ok_iff.mp read
  have found := readNext_sound nextRead
  cases more with
  | false => cases itemRead
  | true =>
      obtain ⟨comma, before, isComma, blank, rfl⟩ := found
      obtain ⟨before', value, blank', isContent, rfl⟩ := readString_sound field itemRead
      exact ⟨comma, before ++ before', value, isComma, blank.append blank', isContent, by simp⟩

theorem readItem_first {field : Field} {before value : List Char} {content : String}
    (blank : Blank before) (isContent : IsContent field (some content) value) (rest : List Char) :
    readItem 0 (before ++ (value ++ rest)) = .ok (content, rest) :=
  bind_eq_ok_iff.mpr ⟨_, readNext_complete .first blank isContent.isJson rest,
    readString_complete .nil isContent rest⟩

theorem readItem_next {count : Nat} {field : Field} {after before value : List Char}
    {content : String} (later : (count == 0) = false) (blankAfter : Blank after) (blank : Blank before)
    (isContent : IsContent field (some content) value) (rest : List Char) :
    readItem count (after ++ ',' :: (before ++ (value ++ rest))) = .ok (content, rest) := by
  have more := readNext_complete (.next blankAfter) blank isContent.isJson rest
  rw [List.append_assoc, List.singleton_append] at more
  refine bind_eq_ok_iff.mpr ⟨(true, value ++ rest), ?_, readString_complete .nil isContent rest⟩
  rw [later]
  exact more

/-- What a list says for each field: its first three elements are texts, and a fourth one may say
what the tag is. -/
inductive FromElements (record : Record) : List (List Char) → Prop
  | three {ciphertext salt iv : List Char} :
      IsContent .ciphertext (some record.ciphertext) ciphertext →
        IsContent .salt (some record.salt) salt → IsContent .iv (some record.iv) iv →
          record.mac = none → FromElements record [ciphertext, salt, iv]
  | four {ciphertext salt iv mac : List Char} :
      IsContent .ciphertext (some record.ciphertext) ciphertext →
        IsContent .salt (some record.salt) salt → IsContent .iv (some record.iv) iv →
          IsContent .mac record.mac mac → FromElements record [ciphertext, salt, iv, mac]

/-- The steps of reading a list. -/
theorem readList_eq_ok_iff {text rest : List Char} {record : Record} :
    readList text = .ok (record, rest) ↔
      ∃ first second third more next last,
        readItem 0 text = .ok (record.ciphertext, first) ∧
        readItem 1 first = .ok (record.salt, second) ∧
        readItem 2 second = .ok (record.iv, third) ∧
        readNext false third = .ok (more, next) ∧
        (if more then readOptionalField next = .ok (record.mac, last)
          else record.mac = none ∧ next = last) ∧
        readListEnd last = .ok rest := by
  constructor
  · intro read
    obtain ⟨⟨_, _⟩, firstRead, read⟩ := bind_eq_ok_iff.mp read
    obtain ⟨⟨_, _⟩, secondRead, read⟩ := bind_eq_ok_iff.mp read
    obtain ⟨⟨_, _⟩, thirdRead, read⟩ := bind_eq_ok_iff.mp read
    obtain ⟨⟨more, _⟩, nextRead, read⟩ := bind_eq_ok_iff.mp read
    cases more with
    | false =>
        obtain ⟨_, endRead, read⟩ := bind_eq_ok_iff.mp read
        cases read
        exact ⟨_, _, _, _, _, _, firstRead, secondRead, thirdRead, nextRead, ⟨rfl, rfl⟩, endRead⟩
    | true =>
        obtain ⟨⟨_, _⟩, tagRead, read⟩ := bind_eq_ok_iff.mp read
        obtain ⟨_, endRead, read⟩ := bind_eq_ok_iff.mp read
        cases read
        exact ⟨_, _, _, _, _, _, firstRead, secondRead, thirdRead, nextRead, tagRead, endRead⟩
  · rintro ⟨_, _, _, more, _, _, firstRead, secondRead, thirdRead, nextRead, tagRead, endRead⟩
    refine bind_eq_ok_iff.mpr ⟨_, firstRead, bind_eq_ok_iff.mpr ⟨_, secondRead,
      bind_eq_ok_iff.mpr ⟨_, thirdRead, bind_eq_ok_iff.mpr ⟨_, nextRead, ?_⟩⟩⟩⟩
    cases more with
    | false =>
        obtain ⟨absent, rfl⟩ := tagRead
        refine bind_eq_ok_iff.mpr ⟨_, endRead, ?_⟩
        rw [← absent]
        rfl
    | true => exact bind_eq_ok_iff.mpr ⟨_, tagRead, bind_eq_ok_iff.mpr ⟨_, endRead, rfl⟩⟩

theorem readList_sound {text rest : List Char} {record : Record}
    (read : readList text = .ok (record, rest)) :
    ∃ elements written, Separated IsElement elements written ∧ FromElements record elements ∧
      text = written ++ ']' :: rest := by
  obtain ⟨_, _, _, more, _, _, firstRead, secondRead, thirdRead, nextRead, tagRead, endRead⟩ :=
    readList_eq_ok_iff.mp read
  obtain ⟨_, _, first, firstComma, firstBlank, firstContent, rfl⟩ := readItem_sound .ciphertext firstRead
  obtain ⟨_, _, second, secondComma, secondBlank, secondContent, rfl⟩ := readItem_sound .salt secondRead
  obtain ⟨_, _, third, thirdComma, thirdBlank, thirdContent, rfl⟩ := readItem_sound .iv thirdRead
  obtain rfl := firstComma.eq_nil
  obtain ⟨_, firstAfter, rfl⟩ := secondComma.exists_blank
  obtain ⟨_, secondAfter, rfl⟩ := thirdComma.exists_blank
  obtain ⟨_, blank, rfl⟩ := readListEnd_eq_ok_iff.mp endRead
  have firstElement := IsElement.mk firstBlank firstContent.isJson firstAfter
  have secondElement := IsElement.mk secondBlank secondContent.isJson secondAfter
  have found := readNext_sound nextRead
  cases more with
  | false =>
      obtain ⟨absent, rfl⟩ := tagRead
      obtain ⟨_, _, thirdAfter, _, rfl⟩ := found
      have thirdElement := IsElement.mk thirdBlank thirdContent.isJson (thirdAfter.append blank)
      exact ⟨_, _, .more firstElement (.more secondElement (.last thirdElement)),
        .three firstContent secondContent thirdContent absent, by simp⟩
  | true =>
      obtain ⟨_, _, fourthComma, fourthBlank, rfl⟩ := found
      obtain ⟨_, thirdAfter, rfl⟩ := fourthComma.exists_blank
      obtain ⟨_, fourth, fourthBlank', fourthContent, rfl⟩ := readOptionalField_sound tagRead
      have thirdElement := IsElement.mk thirdBlank thirdContent.isJson thirdAfter
      have fourthElement := IsElement.mk (fourthBlank.append fourthBlank') fourthContent.isJson blank
      exact ⟨_, _, .more firstElement (.more secondElement (.more thirdElement (.last fourthElement))),
        .four firstContent secondContent thirdContent fourthContent, by simp⟩

theorem readList_complete {elements : List (List Char)} {written : List Char} {record : Record}
    (separated : Separated IsElement elements written) (states : FromElements record elements)
    (rest : List Char) : readList (written ++ ']' :: rest) = .ok (record, rest) := by
  rw [readList_eq_ok_iff]
  cases states with
  | three firstContent secondContent thirdContent absent =>
      obtain _ | @⟨_, _, _, _, ⟨firstBlank, _, firstAfter⟩, separated⟩ := separated
      obtain _ | @⟨_, _, _, _, ⟨secondBlank, _, secondAfter⟩, separated⟩ := separated
      obtain @⟨_, _, ⟨thirdBlank, _, thirdAfter⟩⟩ | @⟨_, _, _, _, _, separated⟩ := separated
      · simp only [List.append_assoc, List.cons_append]
        exact ⟨_, _, _, false, _, _, readItem_first firstBlank firstContent _,
          readItem_next rfl firstAfter secondBlank secondContent _,
          readItem_next rfl secondAfter thirdBlank thirdContent _,
          readNext_of_closing thirdAfter _ _, ⟨absent, rfl⟩,
          readListEnd_eq_ok_iff.mpr ⟨[], .nil, rfl⟩⟩
      · cases separated
  | four firstContent secondContent thirdContent fourthContent =>
      obtain _ | @⟨_, _, _, _, ⟨firstBlank, _, firstAfter⟩, separated⟩ := separated
      obtain _ | @⟨_, _, _, _, ⟨secondBlank, _, secondAfter⟩, separated⟩ := separated
      obtain _ | @⟨_, _, _, _, ⟨thirdBlank, _, thirdAfter⟩, separated⟩ := separated
      obtain @⟨_, _, ⟨fourthBlank, _, fourthAfter⟩⟩ | @⟨_, _, _, _, _, separated⟩ := separated
      · have more := readNext_complete (.next thirdAfter) fourthBlank fourthContent.isJson
        simp only [List.append_assoc, List.cons_append, List.nil_append] at more ⊢
        exact ⟨_, _, _, true, _, _, readItem_first firstBlank firstContent _,
          readItem_next rfl firstAfter secondBlank secondContent _,
          readItem_next rfl secondAfter thirdBlank thirdContent _, more _,
          readOptionalField_complete .nil fourthContent _,
          readListEnd_eq_ok_iff.mpr ⟨_, fourthAfter, rfl⟩⟩
      · cases separated

end SeedVault.Vault
