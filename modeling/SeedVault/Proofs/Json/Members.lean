/-
Objects and lists as the members and elements that they are written from. A text is written from
one list of them at most.
-/

import SeedVault.Proofs.Json.Value

namespace SeedVault.Json

/-- The parts of an object or a list, with commas between them. -/
inductive Separated {α : Type} (IsOne : α → List Char → Prop) : List α → List Char → Prop
  | last {one : α} {text : List Char} : IsOne one text → Separated IsOne [one] text
  | more {one : α} {rest : List α} {text texts : List Char} :
      IsOne one text → Separated IsOne rest texts →
        Separated IsOne (one :: rest) (text ++ ',' :: texts)

/-- A member of an object: its key, and its value as it is written. -/
abbrev Member := String × List Char

/-- A key, a colon and a value, with white space around each. -/
inductive IsMember : Member → List Char → Prop
  | mk {before written middle ahead value after : List Char} {key : String} :
      Blank before → Spells written key.toList → Blank middle → Blank ahead →
        IsJson .value value → Blank after →
          IsMember (key, value)
            (before ++ '"' :: written ++ '"' :: middle ++ ':' :: ahead ++ value ++ after)

/-- An element of a list, with white space around it. -/
inductive IsElement : List Char → List Char → Prop
  | mk {before value after : List Char} :
      Blank before → IsJson .value value → Blank after →
        IsElement value (before ++ value ++ after)

/-- The place where white space ends is unique. -/
theorem eq_of_blank_append_eq {before before' rest rest' : List Char} {char char' : Char}
    (blank : Blank before) (solid : isBlank char = false) (blank' : Blank before')
    (solid' : isBlank char' = false)
    (same : before ++ char :: rest = before' ++ char' :: rest') :
    before = before' ∧ char = char' ∧ rest = rest' := by
  have sameRest : char :: rest = char' :: rest' := by
    rw [← skipBlank_append_cons blank solid, same, skipBlank_append_cons blank' solid']
  obtain ⟨rfl, rfl⟩ := List.cons.inj sameRest
  exact ⟨List.append_cancel_right same, rfl, rfl⟩

/-- The place where a text ends is unique. -/
theorem Spells.eq_of_append_eq {written written' content content' rest rest' : List Char}
    (spells : Spells written content) (spells' : Spells written' content')
    (same : written ++ '"' :: rest = written' ++ '"' :: rest') :
    content = content' ∧ written = written' ∧ rest = rest' := by
  have read := readChars_complete spells [] rest
  rw [same, readChars_complete spells'] at read
  simp only [List.reverse_nil, List.nil_append, Except.ok.injEq, Prod.mk.injEq] at read
  obtain ⟨rfl, rfl⟩ := read
  exact ⟨rfl, List.append_cancel_right same, rfl⟩

/-- The place where a value ends is unique, white space before it included. -/
theorem IsJson.eq_of_append_eq {before before' value value' rest rest' : List Char}
    (blank : Blank before) (isJson : IsJson .value value) (ends : EndsValue rest)
    (blank' : Blank before') (isJson' : IsJson .value value') (ends' : EndsValue rest')
    (same : before ++ (value ++ rest) = before' ++ (value' ++ rest')) :
    value = value' ∧ rest = rest' := by
  have skipped := skipValue_complete blank isJson ends
  rw [same, skipValue_complete blank' isJson' ends'] at skipped
  obtain rfl := (Except.ok.inj skipped).symm
  obtain ⟨first, tail, rfl, solid, _⟩ := isJson.exists_first
  obtain ⟨first', tail', rfl, solid', _⟩ := isJson'.exists_first
  rw [List.cons_append, List.cons_append] at same
  obtain ⟨_, rfl, sameTail⟩ := eq_of_blank_append_eq blank solid blank' solid' same
  exact ⟨congrArg _ (List.append_cancel_right sameTail), rfl⟩

/-- What follows a part: nothing, or a comma. -/
def EndsPart (rest : List Char) : Prop :=
  ∀ char ∈ rest.head?, char = ','

theorem EndsPart.nil : EndsPart [] := by
  simp [EndsPart]

theorem EndsPart.comma (rest : List Char) : EndsPart (',' :: rest) := by
  simp [EndsPart]

theorem EndsPart.endsValue {blank rest : List Char} (isBlank : Blank blank) (ends : EndsPart rest) :
    EndsValue (blank ++ rest) :=
  .append isBlank fun char first => .inr (.inl (ends char first))

theorem EndsPart.eq_of_blank_append_eq {blank blank' rest rest' : List Char} (isBlank : Blank blank)
    (ends : EndsPart rest) (isBlank' : Blank blank') (ends' : EndsPart rest')
    (same : blank ++ rest = blank' ++ rest') : rest = rest' := by
  have unskipped {rest : List Char} (ends : EndsPart rest) : skipBlank rest = rest := by
    cases rest with
    | nil => rfl
    | cons char rest =>
        obtain rfl := ends char rfl
        exact skipBlank_cons rfl rest
  rw [← unskipped ends, ← skipBlank_append isBlank, same, skipBlank_append isBlank', unskipped ends']

/-- What the parts are written from can be read off, if each can be read off from its start. -/
theorem Separated.eq_of_text_eq {α : Type} {IsOne : α → List Char → Prop}
    (determined : ∀ {one one' : α} {text text' rest rest' : List Char}, IsOne one text →
      IsOne one' text' → EndsPart rest → EndsPart rest' → text ++ rest = text' ++ rest' →
        one = one' ∧ rest = rest')
    {ones ones' : List α} {text : List Char} (separated : Separated IsOne ones text)
    (separated' : Separated IsOne ones' text) : ones = ones' := by
  induction separated generalizing ones' with
  | @last one text isOne =>
      generalize sameText : text = text' at separated'
      cases separated' with
      | last isOne' =>
          subst sameText
          obtain ⟨rfl, _⟩ := determined isOne isOne' .nil .nil rfl
          rfl
      | more isOne' _ =>
          rw [← List.append_nil text] at sameText
          cases (determined isOne isOne' .nil (.comma _) sameText).2
  | @more one rest text texts isOne _ ih =>
      generalize sameText : text ++ ',' :: texts = text' at separated'
      cases separated' with
      | last isOne' =>
          rw [← List.append_nil text'] at sameText
          cases (determined isOne isOne' (.comma _) .nil sameText).2
      | more isOne' separated' =>
          obtain ⟨rfl, sameTexts⟩ := determined isOne isOne' (.comma _) (.comma _) sameText
          cases sameTexts
          rw [ih separated']

theorem IsMember.eq_of_append_eq {member member' : Member} {text text' rest rest' : List Char}
    (isMember : IsMember member text) (isMember' : IsMember member' text') (ends : EndsPart rest)
    (ends' : EndsPart rest') (same : text ++ rest = text' ++ rest') :
    member = member' ∧ rest = rest' := by
  obtain @⟨_, _, middle, ahead, value, after, key, blank, spells, middleBlank, aheadBlank, isJson,
    afterBlank⟩ := isMember
  obtain @⟨_, _, middle', ahead', value', after', key', blank', spells', middleBlank', aheadBlank',
    isJson', afterBlank'⟩ := isMember'
  simp only [List.append_assoc, List.cons_append] at same
  obtain ⟨_, _, same⟩ := eq_of_blank_append_eq blank rfl blank' rfl same
  obtain ⟨sameKey, _, same⟩ := spells.eq_of_append_eq spells' same
  obtain ⟨_, _, same⟩ := eq_of_blank_append_eq middleBlank rfl middleBlank' rfl same
  obtain ⟨rfl, sameRest⟩ := IsJson.eq_of_append_eq aheadBlank isJson (ends.endsValue afterBlank)
    aheadBlank' isJson' (ends'.endsValue afterBlank') same
  rw [String.toList_inj.mp sameKey]
  exact ⟨rfl, ends.eq_of_blank_append_eq afterBlank afterBlank' ends' sameRest⟩

theorem IsElement.eq_of_append_eq {element element' text text' rest rest' : List Char}
    (isElement : IsElement element text) (isElement' : IsElement element' text')
    (ends : EndsPart rest) (ends' : EndsPart rest') (same : text ++ rest = text' ++ rest') :
    element = element' ∧ rest = rest' := by
  obtain ⟨blank, isJson, afterBlank⟩ := isElement
  obtain ⟨blank', isJson', afterBlank'⟩ := isElement'
  simp only [List.append_assoc] at same
  obtain ⟨rfl, sameRest⟩ := IsJson.eq_of_append_eq blank isJson (ends.endsValue afterBlank)
    blank' isJson' (ends'.endsValue afterBlank') same
  exact ⟨rfl, ends.eq_of_blank_append_eq afterBlank afterBlank' ends' sameRest⟩

/-- What separates a member or an element from what stands before it: nothing if it is the first
one, and a comma behind white space if it is not. -/
inductive IsComma : Bool → List Char → Prop
  | first : IsComma true []
  | next {blank : List Char} : Blank blank → IsComma false (blank ++ [','])

theorem IsComma.eq_nil {comma : List Char} (isComma : IsComma true comma) : comma = [] := by
  cases isComma
  rfl

theorem IsComma.exists_blank {comma : List Char} (isComma : IsComma false comma) :
    ∃ blank, Blank blank ∧ comma = blank ++ [','] := by
  cases isComma with
  | next isBlank => exact ⟨_, isBlank, rfl⟩

/-- What stands between an opening bracket or a member and the closing bracket: white space, or
further members. -/
inductive IsRemainder (first : Bool) : List Member → List Char → Prop
  | close {blank : List Char} : Blank blank → IsRemainder first [] blank
  | more {members : List Member} {comma text : List Char} :
      IsComma first comma → Separated IsMember members text →
        IsRemainder first members (comma ++ text)

/-- How a text starts with a key. -/
inductive IsKey (key : String) (first : Bool) : List Char → Prop
  | mk {comma before written : List Char} :
      IsComma first comma → Blank before → Spells written key.toList →
        IsKey key first (comma ++ before ++ '"' :: written ++ ['"'])

/-- A member and what stands between it and the closing bracket. -/
theorem IsRemainder.separated {member : Member} {members : List Member}
    {start remainder : List Char} (isRemainder : IsRemainder false members remainder)
    (isMember : ∀ {after : List Char}, Blank after → IsMember member (start ++ after)) :
    Separated IsMember (member :: members) (start ++ remainder) := by
  cases isRemainder with
  | close blank => exact .last (isMember blank)
  | more isComma separated =>
      cases isComma with
      | next blank =>
          have more := Separated.more (isMember blank) separated
          simpa using more

theorem IsRemainder.cons {first : Bool} {key : String} {members : List Member}
    {lead middle ahead value remainder : List Char} (isKey : IsKey key first lead)
    (blank : Blank middle) (blankAhead : Blank ahead) (isJson : IsJson .value value)
    (isRemainder : IsRemainder false members remainder) :
    IsRemainder first ((key, value) :: members)
      (lead ++ (middle ++ ':' :: (ahead ++ (value ++ remainder)))) := by
  obtain @⟨comma, before, written, isComma, blankBefore, spells⟩ := isKey
  have isMember {after : List Char} (blankAfter : Blank after) : IsMember (key, value)
      (before ++ '"' :: written ++ '"' :: middle ++ ':' :: ahead ++ value ++ after) :=
    .mk blankBefore spells blank blankAhead isJson blankAfter
  have separated := isRemainder.separated isMember
  simpa using IsRemainder.more isComma separated

theorem IsRemainder.exists_cons {first : Bool} {key : String} {value : List Char}
    {members : List Member} {text : List Char}
    (isRemainder : IsRemainder first ((key, value) :: members) text) :
    ∃ lead middle ahead remainder, IsKey key first lead ∧ Blank middle ∧ Blank ahead ∧
      IsJson .value value ∧ IsRemainder false members remainder ∧
        text = lead ++ (middle ++ ':' :: (ahead ++ (value ++ remainder))) := by
  cases isRemainder with
  | more isComma separated =>
      cases separated with
      | last isMember =>
          obtain ⟨blank, spells, blankMiddle, blankAhead, isJson, blankAfter⟩ := isMember
          exact ⟨_, _, _, _, .mk isComma blank spells, blankMiddle, blankAhead, isJson,
            .close blankAfter, by simp⟩
      | more isMember separated =>
          obtain ⟨blank, spells, blankMiddle, blankAhead, isJson, blankAfter⟩ := isMember
          exact ⟨_, _, _, _, .mk isComma blank spells, blankMiddle, blankAhead, isJson,
            .more (.next blankAfter) separated, by simp⟩

theorem IsRemainder.endsValue {members : List Member} {remainder : List Char}
    (isRemainder : IsRemainder false members remainder) (rest : List Char) :
    EndsValue (remainder ++ '}' :: rest) := by
  cases isRemainder with
  | close blank => exact .append blank (.cons (.inr (.inr rfl)) rest)
  | more isComma _ =>
      cases isComma with
      | next blank =>
          simp only [List.append_assoc]
          exact .append blank (.cons (.inl rfl) _)

end SeedVault.Json
