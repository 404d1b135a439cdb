/-
Reading an object. Its members are taken one after the other, and the draft at the end holds what
they say for each field.
-/

import SeedVault.Proofs.Vault.Draft

namespace SeedVault.Vault

open Json

/-- What the members of an object make of a draft, one after the other. -/
inductive Gathers : Draft → List Member → Draft → Prop
  | nil {draft : Draft} : Gathers draft [] draft
  | cons {draft next last : Draft} {member : Member} {members : List Member} :
      Takes draft member next → Gathers next members last → Gathers draft (member :: members) last

theorem readKey_closing {first : Bool} {text rest : List Char}
    (read : readKey first text = .ok (none, rest)) :
    ∃ blank, Blank blank ∧ text = blank ++ '}' :: rest := by
  unfold readKey at read
  split at read
  · cases read
  · rename_i skips
    cases read
    exact exists_blank_of_eq skips
  · split at read
    · split at read
      · obtain ⟨_, absurdity, _⟩ := map_value_eq_ok_iff.mp read
        cases absurdity
      · cases read
    · split at read
      · split at read
        · cases read
        · cases read
        · obtain ⟨_, absurdity, _⟩ := map_value_eq_ok_iff.mp read
          cases absurdity
        · cases read
      · cases read

theorem readKey_sound {first : Bool} {text rest : List Char} {key : String}
    (read : readKey first text = .ok (some key, rest)) :
    ∃ lead, IsKey key first lead ∧ text = lead ++ rest := by
  unfold readKey at read
  split at read
  · cases read
  · cases read
  · rename_i skips
    obtain ⟨before, blank, rfl⟩ := exists_blank_of_eq skips
    cases first with
    | true =>
        rw [if_pos rfl] at read
        split at read
        · rename_i quote
          obtain ⟨_, same, textRead⟩ := map_value_eq_ok_iff.mp read
          obtain ⟨written, spells, rfl⟩ := readText_eq_ok_iff.mp textRead
          cases same
          rw [quote]
          exact ⟨_, .mk .first blank spells, by simp⟩
        · cases read
    | false =>
        rw [if_neg Bool.false_ne_true] at read
        split at read
        · rename_i comma
          split at read
          · cases read
          · cases read
          · rename_i skips'
            obtain ⟨before', blank', rfl⟩ := exists_blank_of_eq skips'
            obtain ⟨_, same, textRead⟩ := map_value_eq_ok_iff.mp read
            obtain ⟨written, spells, rfl⟩ := readText_eq_ok_iff.mp textRead
            cases same
            rw [comma]
            exact ⟨_, .mk (.next blank) blank' spells, by simp⟩
          · cases read
        · cases read

theorem readKey_of_closing {blank : List Char} (isBlank : Blank blank) (first : Bool)
    (rest : List Char) : readKey first (blank ++ '}' :: rest) = .ok (none, rest) := by
  unfold readKey
  rw [skipBlank_append_cons isBlank rfl]
  rfl

theorem readKey_complete {first : Bool} {key : String} {lead : List Char} (isKey : IsKey key first lead)
    (rest : List Char) : readKey first (lead ++ rest) = .ok (some key, rest) := by
  obtain @⟨comma, before, written, isComma, blankBefore, spells⟩ := isKey
  have skips : skipBlank (before ++ '"' :: (written ++ '"' :: rest)) = '"' :: (written ++ '"' :: rest) :=
    skipBlank_append_cons blankBefore rfl _
  have read : readText (written ++ '"' :: rest) = .ok (key, rest) :=
    readText_eq_ok_iff.mpr ⟨written, spells, rfl⟩
  have laidOut : comma ++ before ++ '"' :: written ++ ['"'] ++ rest =
      comma ++ (before ++ '"' :: (written ++ '"' :: rest)) := by simp
  unfold readKey
  rw [laidOut]
  cases isComma with
  | first => simp [skips, read, Except.map]
  | @next blank isBlank =>
      have comes : skipBlank (blank ++ ',' :: (before ++ '"' :: (written ++ '"' :: rest))) =
          ',' :: (before ++ '"' :: (written ++ '"' :: rest)) :=
        skipBlank_append_cons isBlank rfl _
      simp [comes, skips, read, Except.map]

/-- Reading an object takes members up to the closing bracket, and they make a draft that is a
record. -/
theorem readMembers_sound {first : Bool} {draft : Draft} {text rest : List Char} {record : Record}
    (read : readMembers first draft text = .ok (record, rest)) :
    ∃ members remainder last, IsRemainder first members remainder ∧ Gathers draft members last ∧
      last.finish = .ok record ∧ text = remainder ++ '}' :: rest := by
  fun_induction readMembers first draft text with
  | case1 => cases read
  | case2 first draft text after keyRead =>
      obtain ⟨blank, isBlank, rfl⟩ := readKey_closing keyRead
      cases finished : draft.finish with
      | error problem =>
          rw [finished] at read
          cases read
      | ok found =>
          rw [finished] at read
          cases read
          exact ⟨[], blank, draft, .close isBlank, .nil, finished, rfl⟩
  | case3 => cases read
  | case4 first draft text key after keyRead next after' memberRead ih =>
      obtain ⟨lead, isKey, rfl⟩ := readKey_sound keyRead
      obtain ⟨middle, ahead, value, blank, blankAhead, isJson, takes, rfl⟩ :=
        readMember_sound memberRead
      obtain ⟨members, remainder, last, isRemainder, gathers, finished, rfl⟩ := ih read
      exact ⟨_, _, last, .cons isKey blank blankAhead isJson isRemainder, .cons takes gathers,
        finished, by simp⟩

/-- Reading goes on behind a member with what stands between it and the closing bracket. -/
theorem readMembers_cons {first : Bool} {draft next : Draft} {key : String}
    {lead middle ahead value rest : List Char} (isKey : IsKey key first lead) (blank : Blank middle)
    (blankAhead : Blank ahead) (isJson : IsJson .value value) (takes : Takes draft (key, value) next)
    (ends : EndsValue rest) :
    readMembers first draft (lead ++ (middle ++ ':' :: (ahead ++ (value ++ rest)))) =
      readMembers false next rest := by
  conv => lhs; rw [readMembers]
  rw [readKey_complete isKey]
  dsimp only
  rw [readMember_complete blank blankAhead isJson takes ends]

/-- Members that make a draft that is a record are read as that record. -/
theorem readMembers_complete {first : Bool} {draft last : Draft} {members : List Member}
    {remainder : List Char} {record : Record} (isRemainder : IsRemainder first members remainder)
    (gathers : Gathers draft members last) (finished : last.finish = .ok record) (rest : List Char) :
    readMembers first draft (remainder ++ '}' :: rest) = .ok (record, rest) := by
  induction gathers generalizing first remainder with
  | nil =>
      cases isRemainder with
      | close blank =>
          rw [readMembers, readKey_of_closing blank]
          dsimp only
          rw [finished]
          rfl
      | more _ separated => cases separated
  | @cons draft next last member members takes _ ih =>
      obtain ⟨lead, middle, ahead, behind, isKey, blank, blankAhead, isJson, behindMember, rfl⟩ :=
        isRemainder.exists_cons
      have read := readMembers_cons isKey blank blankAhead isJson takes (behindMember.endsValue rest)
      simp only [List.append_assoc, List.cons_append]
      rw [read]
      exact ih behindMember finished

/-- The values that an object gives for a field, in their order. -/
def valuesOf (field : Field) (members : List Member) : List (List Char) :=
  (members.filter fun member => member.1 == field.name).map Prod.snd

theorem valuesOf_cons_of_unknown {key : String} (unknown : Field.ofName? key = none) (field : Field)
    (value : List Char) (members : List Member) :
    valuesOf field ((key, value) :: members) = valuesOf field members := by
  have different : key ≠ field.name := by
    rintro rfl
    rw [ofName?_eq_some_iff.mpr rfl] at unknown
    cases unknown
  simp [valuesOf, different]

theorem valuesOf_cons_same (field : Field) (value : List Char) (members : List Member) :
    valuesOf field ((field.name, value) :: members) = value :: valuesOf field members := by
  simp [valuesOf]

theorem Field.name_injective {left right : Field} (same : left.name = right.name) : left = right := by
  have found := ofName?_eq_some_iff.mpr same
  rwa [ofName?_eq_some_iff.mpr rfl, Option.some_inj] at found

theorem valuesOf_cons_other {field other : Field} (different : field ≠ other) (value : List Char)
    (members : List Member) :
    valuesOf field ((other.name, value) :: members) = valuesOf field members := by
  have differentName : other.name ≠ field.name := fun same => different (Field.name_injective same).symm
  simp [valuesOf, differentName]

/-- How what was read for a field goes on over the values that are given for it: there is none, or
there is one and nothing was read before. -/
inductive Yields (field : Field) :
    List (List Char) → Option (Option String) → Option (Option String) → Prop
  | absent {before : Option (Option String)} : Yields field [] before before
  | present {value : List Char} {content : Option String} :
      IsContent field content value → Yields field [value] none (some content)

theorem Gathers.yields {draft last : Draft} {members : List Member}
    (gathers : Gathers draft members last) (field : Field) :
    Yields field (valuesOf field members) (draft.get field) (last.get field) := by
  induction gathers with
  | nil => exact .absent
  | cons takes _ ih =>
      cases takes with
      | unknown unknown =>
          rw [valuesOf_cons_of_unknown unknown]
          exact ih
      | @known other content value absent isContent =>
          by_cases same : field = other
          · subst same
            rw [Draft.get_set isContent] at ih
            rw [valuesOf_cons_same, absent]
            generalize valuesOf field _ = values at ih ⊢
            generalize Draft.get _ field = found at ih ⊢
            cases ih
            exact .present isContent
          · rw [valuesOf_cons_other same]
            rwa [Draft.get_set_of_ne same] at ih

/-- Members of which each field is given once at most can be gathered. -/
theorem exists_gathers {draft : Draft} {members : List Member}
    (yields : ∀ field, ∃ found, Yields field (valuesOf field members) (draft.get field) found) :
    ∃ last, Gathers draft members last := by
  induction members generalizing draft with
  | nil => exact ⟨draft, .nil⟩
  | cons member members ih =>
      obtain ⟨key, value⟩ := member
      cases known : Field.ofName? key with
      | none =>
          obtain ⟨last, gathers⟩ := ih fun field => by
            simpa only [valuesOf_cons_of_unknown known] using yields field
          exact ⟨last, .cons (.unknown known) gathers⟩
      | some field =>
          obtain rfl := ofName?_eq_some_iff.mp known
          obtain ⟨found, yieldsField⟩ := yields field
          rw [valuesOf_cons_same] at yieldsField
          generalize absent : draft.get field = before at yieldsField
          generalize empty : valuesOf field members = values at yieldsField
          cases yieldsField with
          | present isContent =>
              obtain ⟨last, gathers⟩ := @ih (draft.set field _) fun other => by
                by_cases same : other = field
                · subst same
                  rw [empty, Draft.get_set isContent]
                  exact ⟨_, .absent⟩
                · rw [Draft.get_set_of_ne same]
                  simpa only [valuesOf_cons_other same] using yields other
              exact ⟨last, .cons (.known absent isContent) gathers⟩

/-- What the members of an object say for each field: one text for each but the tag, and nothing or
one value for that. Other members say nothing. -/
structure FromMembers (record : Record) (members : List Member) : Prop where
  ciphertext : ∃ value, valuesOf .ciphertext members = [value] ∧
    IsContent .ciphertext (some record.ciphertext) value
  salt : ∃ value, valuesOf .salt members = [value] ∧ IsContent .salt (some record.salt) value
  iv : ∃ value, valuesOf .iv members = [value] ∧ IsContent .iv (some record.iv) value
  mac : valuesOf .mac members = [] ∧ record.mac = none ∨
    ∃ value, valuesOf .mac members = [value] ∧ IsContent .mac record.mac value

theorem Yields.eq_of_some {field : Field} {values : List (List Char)} {content : Option String}
    (yields : Yields field values none (some content)) :
    ∃ value, values = [value] ∧ IsContent field content value := by
  cases yields with
  | present isContent => exact ⟨_, rfl, isContent⟩

theorem fromMembers_of_gathers {members : List Member} {last : Draft} {record : Record}
    (gathers : Gathers {} members last) (finished : last.finish = .ok record) :
    FromMembers record members := by
  obtain ⟨ciphertext, salt, iv, mac⟩ := Draft.finish_eq_ok_iff.mp finished
  have yields (field : Field) := gathers.yields field
  simp only [Draft.get_empty] at yields
  refine ⟨(ciphertext ▸ yields .ciphertext).eq_of_some, (salt ▸ yields .salt).eq_of_some,
    (iv ▸ yields .iv).eq_of_some, ?_⟩
  have yieldsMac := yields .mac
  rw [← mac]
  generalize last.get .mac = found at yieldsMac ⊢
  generalize valuesOf .mac members = values at yieldsMac ⊢
  cases yieldsMac with
  | absent => exact .inl ⟨rfl, rfl⟩
  | present isContent => exact .inr ⟨_, rfl, isContent⟩

theorem IsContent.content_unique {field : Field} {content content' : Option String}
    {value : List Char} (isContent : IsContent field content value)
    (isContent' : IsContent field content' value) : content = content' := by
  have read := readContent_complete .nil isContent []
  rw [readContent_complete .nil isContent' []] at read
  cases read
  rfl

theorem Yields.eq_some {field : Field} {values : List (List Char)} {found : Option (Option String)}
    {content : Option String} (yields : Yields field values none found)
    (states : ∃ value, values = [value] ∧ IsContent field content value) : found = some content := by
  obtain ⟨value, rfl, isContent⟩ := states
  cases yields with
  | present isContent' => rw [isContent.content_unique isContent']

theorem gathers_of_fromMembers {members : List Member} {record : Record}
    (states : FromMembers record members) :
    ∃ last, Gathers {} members last ∧ last.finish = .ok record := by
  have present {field : Field} {content : Option String}
      (states : ∃ value, valuesOf field members = [value] ∧ IsContent field content value) :
      ∃ found, Yields field (valuesOf field members) none found := by
    obtain ⟨value, given, isContent⟩ := states
    rw [given]
    exact ⟨_, .present isContent⟩
  have anyField (field : Field) :
      ∃ found, Yields field (valuesOf field members) (({} : Draft).get field) found := by
    rw [Draft.get_empty]
    cases field with
    | ciphertext => exact present states.ciphertext
    | salt => exact present states.salt
    | iv => exact present states.iv
    | mac =>
        rcases states.mac with ⟨given, _⟩ | given
        · rw [given]
          exact ⟨_, .absent⟩
        · exact present given
  obtain ⟨last, gathers⟩ := exists_gathers anyField
  have yields (field : Field) := gathers.yields field
  simp only [Draft.get_empty] at yields
  refine ⟨last, gathers, Draft.finish_eq_ok_iff.mpr ⟨(yields _).eq_some states.ciphertext,
    (yields _).eq_some states.salt, (yields _).eq_some states.iv, ?_⟩⟩
  rcases states.mac with ⟨given, absent⟩ | given
  · have yieldsMac := yields .mac
    rw [given] at yieldsMac
    generalize last.get .mac = found at yieldsMac ⊢
    cases yieldsMac
    exact absent.symm
  · rw [(yields _).eq_some given]
    rfl

end SeedVault.Vault
