/-
Ways to write the same vault. The order of the members, members of other names, white space,
escapes and the case of the digits make no difference to what is read.
-/

import SeedVault.Proofs.Vault.Text
import Mathlib.Data.List.Perm.Basic

namespace SeedVault.Vault

open Json

/-- Contents that differ at most in the case of letters. -/
def SameContent (left right : String) : Prop :=
  left.toList.map Char.toLower = right.toList.map Char.toLower

/-- Values that are the same, or texts that are the same but for escapes and the case of letters. -/
inductive SameValue : List Char → List Char → Prop
  | refl {value : List Char} : SameValue value value
  | text {left right : String} {writtenLeft writtenRight : List Char} :
      Spells writtenLeft left.toList → Spells writtenRight right.toList → SameContent left right →
        SameValue ('"' :: writtenLeft ++ ['"']) ('"' :: writtenRight ++ ['"'])

theorem SameValue.symm {left right : List Char} (same : SameValue left right) :
    SameValue right left := by
  cases same with
  | refl => exact .refl
  | text left right same => exact .text right left (Eq.symm same)

/-- The members that have the name of a field. -/
def knownMembers (members : List Member) : List Member :=
  members.filter fun member => (Field.ofName? member.1).isSome

theorem knownMembers_cons_unknown {key : String} (unknown : Field.ofName? key = none)
    (value : List Char) (members : List Member) :
    knownMembers ((key, value) :: members) = knownMembers members := by
  rw [knownMembers, List.filter_cons, if_neg (by simp [unknown])]
  rfl

theorem knownMembers_cons_known (field : Field) (value : List Char) (members : List Member) :
    knownMembers ((field.name, value) :: members) = (field.name, value) :: knownMembers members := by
  rw [knownMembers, List.filter_cons, if_pos (by simp [ofName?_eq_some_iff.mpr rfl])]
  rfl

def SameMember (left right : Member) : Prop :=
  left.1 = right.1 ∧ SameValue left.2 right.2

/-- Members that are the same in another order, if those with unknown names are left out. -/
def SameMembers (left right : List Member) : Prop :=
  ∃ middle, (knownMembers left).Perm middle ∧ List.Forall₂ SameMember middle (knownMembers right)

theorem SameMembers.symm {left right : List Member} (same : SameMembers left right) :
    SameMembers right left := by
  obtain ⟨middle, permuted, sameMembers⟩ := same
  obtain ⟨middle', sameMembers', permuted'⟩ := List.perm_comp_forall₂ permuted sameMembers
  refine ⟨middle', permuted'.symm, ?_⟩
  exact sameMembers'.flip.imp fun _ _ sameMember => ⟨sameMember.1.symm, sameMember.2.symm⟩

theorem valuesOf_knownMembers (field : Field) (members : List Member) :
    valuesOf field (knownMembers members) = valuesOf field members := by
  rw [valuesOf, valuesOf, knownMembers, List.filter_filter]
  congr 1
  refine List.filter_congr fun member _ => ?_
  by_cases named : member.1 = field.name
  · simp [named, ofName?_eq_some_iff.mpr rfl]
  · simp [named]

theorem forall₂_valuesOf {left right : List Member} (same : List.Forall₂ SameMember left right)
    (field : Field) : List.Forall₂ SameValue (valuesOf field left) (valuesOf field right) := by
  induction same with
  | nil => exact .nil
  | @cons member member' _ _ sameMember _ ih =>
      obtain ⟨sameName, sameValue⟩ := sameMember
      by_cases named : member.1 = field.name
      · have named' : member'.1 = field.name := sameName ▸ named
        simpa [valuesOf, named, named'] using And.intro sameValue ih
      · have named' : ¬ member'.1 = field.name := sameName ▸ named
        simpa [valuesOf, named, named'] using ih

/-- The values for a field are the same in another order. -/
theorem SameMembers.exists_values {left right : List Member} (same : SameMembers left right)
    (field : Field) :
    ∃ values, (valuesOf field left).Perm values ∧
      List.Forall₂ SameValue values (valuesOf field right) := by
  obtain ⟨middle, permuted, sameMembers⟩ := same
  refine ⟨valuesOf field middle, ?_, ?_⟩
  · rw [← valuesOf_knownMembers field left]
    exact (permuted.filter _).map _
  · rw [← valuesOf_knownMembers field right]
    exact forall₂_valuesOf sameMembers field

theorem SameMembers.valuesOf_eq_nil {left right : List Member} (same : SameMembers left right)
    {field : Field} (absent : valuesOf field left = []) : valuesOf field right = [] := by
  obtain ⟨values, permuted, sameValues⟩ := same.exists_values field
  rw [absent, List.nil_perm] at permuted
  rw [permuted] at sameValues
  exact List.forall₂_nil_left_iff.mp sameValues

theorem SameMembers.valuesOf_eq_singleton {left right : List Member} (same : SameMembers left right)
    {field : Field} {value : List Char} (present : valuesOf field left = [value]) :
    ∃ value', valuesOf field right = [value'] ∧ SameValue value value' := by
  obtain ⟨values, permuted, sameValues⟩ := same.exists_values field
  rw [present, List.singleton_perm] at permuted
  rw [← permuted] at sameValues
  obtain ⟨value', rest, sameValue, sameRest, given⟩ := List.forall₂_cons_left_iff.mp sameValues
  rw [List.forall₂_nil_left_iff.mp sameRest] at given
  exact ⟨value', given, sameValue⟩

/-- A value that is the same says the same content but for the case of its letters. -/
theorem IsContent.of_sameValue {field : Field} {content : Option String} {value value' : List Char}
    (isContent : IsContent field content value) (same : SameValue value value') :
    ∃ content', IsContent field content' value' ∧ Option.Rel SameContent content content' := by
  cases same with
  | refl =>
      refine ⟨content, isContent, ?_⟩
      cases content with
      | none => exact .none
      | some _ => exact .some rfl
  | text spells spells' same =>
      rw [isContent.content_unique (.text spells)]
      exact ⟨_, .text spells', .some same⟩

theorem IsContent.of_sameValue_text {field : Field} {content : String} {value value' : List Char}
    (isContent : IsContent field (some content) value) (same : SameValue value value') :
    ∃ content', IsContent field (some content') value' ∧ SameContent content content' := by
  obtain ⟨_, isContent', ⟨sameContent⟩⟩ := isContent.of_sameValue same
  exact ⟨_, isContent', sameContent⟩

/-- Records whose texts differ at most in the case of letters. -/
structure Record.Alike (left right : Record) : Prop where
  ciphertext : SameContent left.ciphertext right.ciphertext
  salt : SameContent left.salt right.salt
  iv : SameContent left.iv right.iv
  mac : Option.Rel SameContent left.mac right.mac

theorem Record.Alike.denotes {left right : Record} {vault : Vault} (alike : left.Alike right)
    (denotes : left.Denotes vault) : right.Denotes vault where
  ciphertext := denotes.ciphertext.of_map_toLower_eq alike.ciphertext
  salt := denotes.salt.of_map_toLower_eq alike.salt
  iv := denotes.iv.of_map_toLower_eq alike.iv
  mac := by
    have sameMac := alike.mac
    have denotesMac := denotes.mac
    generalize left.mac = leftMac at sameMac denotesMac
    generalize right.mac = rightMac at sameMac ⊢
    generalize vault.mac = mac at denotesMac ⊢
    cases sameMac with
    | none =>
        cases denotesMac
        exact .none
    | some sameContent =>
        cases denotesMac with
        | some denotes => exact .some (denotes.of_map_toLower_eq sameContent)

theorem FromMembers.of_sameMembers {record : Record} {left right : List Member}
    (states : FromMembers record left) (same : SameMembers left right) :
    ∃ record', FromMembers record' right ∧ record.Alike record' := by
  have text {field : Field} {content : String}
      (states : ∃ value, valuesOf field left = [value] ∧ IsContent field (some content) value) :
      ∃ content', (∃ value, valuesOf field right = [value] ∧ IsContent field (some content') value) ∧
        SameContent content content' := by
    obtain ⟨value, given, isContent⟩ := states
    obtain ⟨value', given', sameValue⟩ := same.valuesOf_eq_singleton given
    obtain ⟨content', isContent', sameContent⟩ := isContent.of_sameValue_text sameValue
    exact ⟨content', ⟨value', given', isContent'⟩, sameContent⟩
  obtain ⟨ciphertext, ciphertextStates, sameCiphertext⟩ := text states.ciphertext
  obtain ⟨salt, saltStates, sameSalt⟩ := text states.salt
  obtain ⟨iv, ivStates, sameIv⟩ := text states.iv
  rcases states.mac with ⟨given, absent⟩ | ⟨value, given, isContent⟩
  · refine ⟨⟨ciphertext, salt, iv, none⟩, ⟨ciphertextStates, saltStates, ivStates,
      .inl ⟨same.valuesOf_eq_nil given, rfl⟩⟩, sameCiphertext, sameSalt, sameIv, ?_⟩
    rw [absent]
    exact .none
  · obtain ⟨value', given', sameValue⟩ := same.valuesOf_eq_singleton given
    obtain ⟨mac, isContent', sameMac⟩ := isContent.of_sameValue sameValue
    exact ⟨⟨ciphertext, salt, iv, mac⟩, ⟨ciphertextStates, saltStates, ivStates,
      .inr ⟨value', given', isContent'⟩⟩, sameCiphertext, sameSalt, sameIv, sameMac⟩

theorem FromElements.of_sameValues {record : Record} {left right : List (List Char)}
    (states : FromElements record left) (same : List.Forall₂ SameValue left right) :
    ∃ record', FromElements record' right ∧ record.Alike record' := by
  cases states with
  | three first second third absent =>
      obtain _ | ⟨sameFirst, _ | ⟨sameSecond, _ | ⟨sameThird, ⟨⟩⟩⟩⟩ := same
      obtain ⟨ciphertext, first', sameCiphertext⟩ := first.of_sameValue_text sameFirst
      obtain ⟨salt, second', sameSalt⟩ := second.of_sameValue_text sameSecond
      obtain ⟨iv, third', sameIv⟩ := third.of_sameValue_text sameThird
      refine ⟨⟨ciphertext, salt, iv, none⟩, .three first' second' third' rfl,
        sameCiphertext, sameSalt, sameIv, ?_⟩
      rw [absent]
      exact .none
  | four first second third fourth =>
      obtain _ | ⟨sameFirst, _ | ⟨sameSecond, _ | ⟨sameThird, _ | ⟨sameFourth, ⟨⟩⟩⟩⟩⟩ := same
      obtain ⟨ciphertext, first', sameCiphertext⟩ := first.of_sameValue_text sameFirst
      obtain ⟨salt, second', sameSalt⟩ := second.of_sameValue_text sameSecond
      obtain ⟨iv, third', sameIv⟩ := third.of_sameValue_text sameThird
      obtain ⟨mac, fourth', sameMac⟩ := fourth.of_sameValue sameFourth
      exact ⟨⟨ciphertext, salt, iv, mac⟩, .four first' second' third' fourth',
        sameCiphertext, sameSalt, sameIv, sameMac⟩

/-- Texts that differ in nothing but the order of their members, members with unknown names, white
space, escapes and the case of digits. -/
inductive SameMeaning : List Char → List Char → Prop
  | objects {before before' text text' after after' : List Char} {members members' : List Member} :
      Blank before → Blank after → Blank before' → Blank after' →
        Separated IsMember members text → Separated IsMember members' text' →
          SameMembers members members' →
            SameMeaning (before ++ ('{' :: text ++ ['}']) ++ after)
              (before' ++ ('{' :: text' ++ ['}']) ++ after')
  | lists {before before' text text' after after' : List Char} {elements elements' : List (List Char)} :
      Blank before → Blank after → Blank before' → Blank after' →
        Separated IsElement elements text → Separated IsElement elements' text' →
          List.Forall₂ SameValue elements elements' →
            SameMeaning (before ++ ('[' :: text ++ [']']) ++ after)
              (before' ++ ('[' :: text' ++ [']']) ++ after')

theorem SameMeaning.symm {left right : List Char} (same : SameMeaning left right) :
    SameMeaning right left := by
  cases same with
  | objects blank blankAfter blank' blankAfter' separated separated' sameMembers =>
      exact .objects blank' blankAfter' blank blankAfter separated' separated sameMembers.symm
  | lists blank blankAfter blank' blankAfter' separated separated' sameElements =>
      exact .lists blank' blankAfter' blank blankAfter separated' separated
        (sameElements.flip.imp fun _ _ sameValue => sameValue.symm)

/-- What stands between the outermost brackets is unique. -/
theorem eq_of_bracketed_eq {before before' text text' after after' : List Char}
    {opening opening' closing closing' : Char} (blank : Blank before) (blank' : Blank before')
    (blankAfter : Blank after) (blankAfter' : Blank after') (solidOpening : isBlank opening = false)
    (solidOpening' : isBlank opening' = false) (solidClosing : isBlank closing = false)
    (solidClosing' : isBlank closing' = false)
    (same : before ++ (opening :: text ++ [closing]) ++ after =
      before' ++ (opening' :: text' ++ [closing']) ++ after') :
    opening = opening' ∧ text = text' := by
  have reversed {list : List Char} (blank : Blank list) : Blank list.reverse :=
    fun char member => blank char (List.mem_reverse.mp member)
  simp only [List.append_assoc, List.cons_append, List.nil_append] at same
  obtain ⟨_, sameOpening, same⟩ := eq_of_blank_append_eq blank solidOpening blank' solidOpening' same
  have same := congrArg List.reverse same
  simp only [List.reverse_append, List.reverse_cons, List.append_assoc, List.singleton_append] at same
  obtain ⟨_, _, same⟩ := eq_of_blank_append_eq (reversed blankAfter) solidClosing
    (reversed blankAfter') solidClosing' same
  exact ⟨sameOpening, List.reverse_injective same⟩

/-- A vault that an object is read as comes from the members of that object. -/
theorem IsWritten.fromMembers {vault : Vault} {before text after : List Char} {members : List Member}
    (isWritten : vault.IsWritten (before ++ ('{' :: text ++ ['}']) ++ after)) (blank : Blank before)
    (blankAfter : Blank after) (separated : Separated IsMember members text) :
    ∃ record, FromMembers record members ∧ record.Denotes vault := by
  generalize same : before ++ ('{' :: text ++ ['}']) ++ after = whole at isWritten
  obtain @⟨record, _, _, _, blank', isWritten, blankAfter', denotes⟩ := isWritten
  cases isWritten with
  | object separated' states =>
      obtain ⟨_, rfl⟩ := eq_of_bracketed_eq blank blank' blankAfter blankAfter' rfl rfl rfl rfl same
      rw [← separated.eq_of_text_eq IsMember.eq_of_append_eq separated'] at states
      exact ⟨record, states, denotes⟩
  | list =>
      cases (eq_of_bracketed_eq blank blank' blankAfter blankAfter' rfl rfl rfl rfl same).1

theorem IsWritten.fromElements {vault : Vault} {before text after : List Char}
    {elements : List (List Char)}
    (isWritten : vault.IsWritten (before ++ ('[' :: text ++ [']']) ++ after)) (blank : Blank before)
    (blankAfter : Blank after) (separated : Separated IsElement elements text) :
    ∃ record, FromElements record elements ∧ record.Denotes vault := by
  generalize same : before ++ ('[' :: text ++ [']']) ++ after = whole at isWritten
  obtain @⟨record, _, _, _, blank', isWritten, blankAfter', denotes⟩ := isWritten
  cases isWritten with
  | object =>
      cases (eq_of_bracketed_eq blank blank' blankAfter blankAfter' rfl rfl rfl rfl same).1
  | list separated' states =>
      obtain ⟨_, rfl⟩ := eq_of_bracketed_eq blank blank' blankAfter blankAfter' rfl rfl rfl rfl same
      rw [← separated.eq_of_text_eq IsElement.eq_of_append_eq separated'] at states
      exact ⟨record, states, denotes⟩

theorem IsWritten.of_sameMeaning {vault : Vault} {left right : List Char}
    (isWritten : vault.IsWritten left) (same : SameMeaning left right) : vault.IsWritten right := by
  cases same with
  | objects blank blankAfter blank' blankAfter' separated separated' sameMembers =>
      obtain ⟨record, states, denotes⟩ := isWritten.fromMembers blank blankAfter separated
      obtain ⟨record', states', alike⟩ := states.of_sameMembers sameMembers
      exact .mk blank' (.object separated' states') blankAfter' (alike.denotes denotes)
  | lists blank blankAfter blank' blankAfter' separated separated' sameElements =>
      obtain ⟨record, states, denotes⟩ := isWritten.fromElements blank blankAfter separated
      obtain ⟨record', states', alike⟩ := states.of_sameValues sameElements
      exact .mk blank' (.list separated' states') blankAfter' (alike.denotes denotes)

/-- A member without white space. -/
theorem isMember_compact {key : String} {written value : List Char} (spells : Spells written key.toList)
    (isJson : IsJson .value value) :
    IsMember (key, value) ('"' :: written ++ '"' :: ':' :: value) := by
  have isMember := IsMember.mk .nil spells .nil .nil isJson .nil
  simpa using isMember

/-- An object without a tag as it may be written elsewhere: with a member of another name, in
another order and with an escape. -/
def foreignText (ciphertext salt iv : String) : String :=
  "\x7b\"note\":[],\"iv\":\"" ++ iv ++ "\",\"s\\u0061lt\":\"" ++ salt ++
    "\",\"ciphertext\":\"" ++ ciphertext ++ "\"\x7d"

theorem separated_foreignText {ciphertext salt iv : String}
    (spellsCiphertext : Spells ciphertext.toList ciphertext.toList)
    (spellsSalt : Spells salt.toList salt.toList) (spellsIv : Spells iv.toList iv.toList) :
    ∃ text, (foreignText ciphertext salt iv).toList = '{' :: text ++ ['}'] ∧
      Separated IsMember [("note", ['[', ']']), (Field.iv.name, quoted iv),
        (Field.salt.name, quoted salt), (Field.ciphertext.name, quoted ciphertext)] text := by
  have quotedText {text : String} (spells : Spells text.toList text.toList) :
      IsJson .value (quoted text) := .scalar (.text spells.isQuotable)
  have escaped : SpellsChar ['\\', 'u', '0', '0', '6', '1'] 'a' :=
    .unit (@SpellsUnit.digits '0' '0' '6' '1' 0 0 6 1 rfl rfl rfl rfl) rfl rfl
  have spellsName :
      Spells (['s'] ++ (['\\', 'u', '0', '0', '6', '1'] ++ ['l', 't'])) Field.salt.name.toList :=
    .cons (.plain (.itself (by decide) (by decide) (by decide)))
      (.cons escaped (spells_of_plain (by simp [Plain])))
  have noteMember : IsMember ("note", ['[', ']']) _ :=
    isMember_compact (spells_of_plain (by simp [Plain])) (@IsJson.empty .list [] .nil)
  have ivMember : IsMember (Field.iv.name, quoted iv) _ :=
    isMember_compact (spells_of_plain (plain_name .iv)) (quotedText spellsIv)
  have saltMember := isMember_compact spellsName (quotedText spellsSalt)
  have ciphertextMember : IsMember (Field.ciphertext.name, quoted ciphertext) _ :=
    isMember_compact (spells_of_plain (plain_name .ciphertext)) (quotedText spellsCiphertext)
  refine ⟨_, ?_, .more noteMember (.more ivMember (.more saltMember (.last ciphertextMember)))⟩
  unfold foreignText quoted
  simp only [String.toList_append, String.reduceToList, Field.name, List.cons_append, List.nil_append,
    List.append_assoc]

theorem sameMeaning_foreignText {vault : Vault} (untagged : vault.mac = none) :
    SameMeaning vault.prettyText.toList
      (foreignText vault.record.ciphertext vault.record.salt vault.record.iv).toList := by
  have same : SameMembers (vault.members.map asMember)
      [("note", ['[', ']']), (Field.iv.name, quoted vault.record.iv),
        (Field.salt.name, quoted vault.record.salt),
        (Field.ciphertext.name, quoted vault.record.ciphertext)] := by
    have members_eq : vault.members.map asMember =
        [(Field.ciphertext.name, quoted vault.record.ciphertext),
          (Field.salt.name, quoted vault.record.salt), (Field.iv.name, quoted vault.record.iv)] := by
      rw [members, untagged]
      rfl
    have unknown : Field.ofName? "note" = none := by decide
    rw [SameMembers, members_eq, knownMembers_cons_unknown unknown]
    simp only [knownMembers_cons_known]
    refine ⟨_, (List.reverse_perm _).symm, ?_⟩
    exact .cons ⟨rfl, .refl⟩ (.cons ⟨rfl, .refl⟩ (.cons ⟨rfl, .refl⟩ .nil))
  have spells (bytes : List UInt8) := (Hex.denotes_encode bytes).spells
  obtain ⟨text, laidOut, separated⟩ :=
    separated_foreignText (spells vault.ciphertext.toList) (spells vault.salt.toList)
      (spells vault.iv.toList)
  have objects := SameMeaning.objects .nil .nil .nil .nil
    (separated_lines fun field member => vault.spells_members member) separated same
  rw [toList_prettyText]
  refine (congrArg₂ SameMeaning (List.append_nil _).symm ?_).mpr objects
  exact laidOut.trans (List.append_nil _).symm

/-- A text is read as a vault exactly if it is one that the vault is written as, and texts of the
same meaning are read as the same vault. -/
theorem reads_exactly_written_texts :
    (∀ (text : String) (vault : Vault), ofText text = .ok vault ↔ vault.IsWritten text.toList) ∧
      ∀ left right : String, SameMeaning left.toList right.toList →
        ∀ vault, ofText left = .ok vault ↔ ofText right = .ok vault := by
  refine ⟨fun text vault => ofText_eq_ok_iff, fun left right same vault => ?_⟩
  rw [ofText_eq_ok_iff, ofText_eq_ok_iff]
  exact ⟨fun isWritten => isWritten.of_sameMeaning same,
    fun isWritten => isWritten.of_sameMeaning same.symm⟩

theorem reads_foreign_text :
    let vault : Vault :=
      ⟨Vector.replicate 32 0xaa, Vector.replicate 16 0xbb, Vector.replicate 16 0xcc, none⟩
    ofText vault.prettyText = .ok vault ∧
      ofText (foreignText vault.record.ciphertext vault.record.salt vault.record.iv) = .ok vault := by
  intro vault
  have read : ofText vault.prettyText = .ok vault := vault.ofText_prettyText
  have same := sameMeaning_foreignText (Eq.refl vault.mac)
  exact ⟨read, (reads_exactly_written_texts.2 _ _ same vault).mp read⟩

end SeedVault.Vault
