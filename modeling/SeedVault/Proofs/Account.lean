/-
Addresses name public keys. A text is read as an address exactly if it names a public key, the
text of an address is the one in lower case that does, and an expected address is compared by the
key that it names.
-/

import SeedVault.Account.Json
import SeedVault.Proofs.Hex.Faults
import SeedVault.Proofs.Vault.Canonical
import SeedVault.Proofs.Wallet.Sealings

namespace SeedVault.Json

/-- A JSON text that is a string with the given content, and white space around it. -/
def IsString (text : List Char) (content : String) : Prop :=
  ∃ before written after, Blank before ∧ Spells written content.toList ∧ Blank after ∧
    text = before ++ (('"' :: written ++ ['"']) ++ after)

/-- A string is read up to its closing quote. -/
theorem readString_eq_ok_iff {text rest : List Char} {content : String} :
    readString text = .ok (content, rest) ↔
      ∃ before written, Blank before ∧ Spells written content.toList ∧
        text = before ++ (('"' :: written ++ ['"']) ++ rest) := by
  constructor
  · intro read
    obtain ⟨before, _, blank, isContent, rfl⟩ := Vault.readString_sound .mac read
    cases isContent with
    | text spells => exact ⟨before, _, blank, spells, rfl⟩
  · rintro ⟨before, written, blank, spells, rfl⟩
    exact Vault.readString_complete blank (.text spells : Vault.IsContent .mac _ _) rest

end SeedVault.Json

namespace SeedVault

namespace Address

open Json

/-- A text names a public key by the mark `k:` and two digits of either case for each byte. -/
def Names (text : String) (publicKey : Bytes 32) : Prop :=
  ∃ digits, text.toList = 'k' :: ':' :: digits ∧ Hex.Denotes digits publicKey.toList

/-- Exactly the texts that name a public key are read, and as the address with that key. -/
theorem parse_eq_ok_iff {text : String} {address : Address} :
    parse text = .ok address ↔ Names text address.publicKey := by
  constructor
  · intro read
    unfold parse at read
    split at read
    · rename_i digits marked
      cases decoded : Hex.decode 32 (String.ofList digits) with
      | ok publicKey =>
          simp only [decoded, Except.ok.injEq] at read
          subst read
          have denotes := Hex.decode_eq_ok_iff_denotes.mp decoded
          rw [String.toList_ofList] at denotes
          exact ⟨digits, marked, denotes⟩
      | error fault => cases fault <;> simp [decoded] at read
    · cases read
  · rintro ⟨digits, marked, denotes⟩
    have decoded : Hex.decode 32 (String.ofList digits) = .ok address.publicKey := by
      rw [Hex.decode_eq_ok_iff_denotes, String.toList_ofList]
      exact denotes
    simp only [parse, marked, decoded]

/-- A text names a public key if it has the mark and 64 digits behind it. -/
theorem exists_names_iff {text : String} :
    (∃ publicKey, Names text publicKey) ↔
      ∃ digits, text.toList = 'k' :: ':' :: digits ∧ digits.length = 64 ∧
        ∀ char ∈ digits, ∃ digit, Text.hexDigit? char = some digit := by
  constructor
  · rintro ⟨publicKey, digits, marked, denotes⟩
    obtain ⟨areDigits, fits, _⟩ := Hex.denotes_iff.mp denotes
    rw [Vector.length_toList] at fits
    exact ⟨digits, marked, fits, areDigits⟩
  · rintro ⟨digits, marked, fits, areDigits⟩
    obtain ⟨bytes, length, denotes⟩ := @Hex.exists_denotes 32 digits fits areDigits
    exact ⟨⟨⟨bytes⟩, length⟩, digits, marked, denotes⟩

theorem Names.parse_eq {text : String} {publicKey : Bytes 32} (names : Names text publicKey) :
    parse text = .ok ⟨publicKey⟩ :=
  parse_eq_ok_iff.mpr names

theorem toList_text (address : Address) :
    address.text.toList = 'k' :: ':' :: address.digits.toList := by
  change ("k:" ++ address.digits).toList = _
  rw [String.toList_append]
  rfl

theorem names_text (address : Address) : Names address.text address.publicKey :=
  ⟨_, address.toList_text, Hex.denotes_encode _⟩

/-- The text of an address is read back. -/
theorem parse_text (address : Address) : parse address.text = .ok address :=
  parse_eq_ok_iff.mpr address.names_text

theorem text_injective {left right : Address} (same : left.text = right.text) : left = right := by
  have read := left.parse_text
  rw [same, parse_text] at read
  exact (Except.ok.inj read).symm

/-- The text of an address is what was read, in lower case. -/
theorem toList_text_of_parse {text : String} {address : Address} (read : parse text = .ok address) :
    address.text.toList = text.toList.map Char.toLower := by
  obtain ⟨digits, marked, denotes⟩ := parse_eq_ok_iff.mp read
  rw [toList_text, marked, List.map_cons, List.map_cons, denotes.map_toLower_eq]
  rfl

/-- Reads an address as a text and no more: the digits behind the mark are counted in bytes and looked
at, and put into lower case. -/
def normalise (text : String) : Except AddressError String :=
  let digits := String.ofList (text.toList.drop 2)
  if text.toList.take 2 ≠ ['k', ':'] then .error .missingMark
  else if digits.utf8ByteSize ≠ 64 then .error (.size digits.utf8ByteSize)
  else if (Text.utf8 digits).all (Hex.IsDigitCode ·) then .ok ("k:" ++ digits.toLower)
  else .error .notHex

/-- The text of an address that is read is the text that was normalised. -/
theorem map_text_parse (text : String) : (parse text).map Address.text = normalise text := by
  rw [normalise]
  by_cases marked : text.toList.take 2 = ['k', ':']
  · have whole := List.take_append_drop 2 text.toList
    rw [if_neg (not_not.mpr marked), parse]
    rw [marked] at whole
    generalize text.toList.drop 2 = rest at whole
    simp only [← whole, List.cons_append, List.nil_append]
    generalize String.ofList rest = digits
    rcases Hex.decode_cases 32 digits with ⟨publicKey, decoded⟩ | ⟨fault, faulty⟩
    · obtain ⟨fits, codes⟩ := Hex.exists_decode_iff_codes.mp ⟨publicKey, decoded⟩
      have written := Hex.decode_eq_ok_iff_toLower.mp decoded
      have allDigits : (Text.utf8 digits).all (Hex.IsDigitCode ·) = true := by simpa using codes
      rw [decoded, if_neg (not_not.mpr fits), if_pos allDigits, ← written]
      rfl
    · rw [faulty.decode_eq]
      cases faulty with
      | length misfit => rw [if_pos misfit]; rfl
      | digit fits split _ wrong =>
          have notAll : ¬ (Text.utf8 digits).all (Hex.IsDigitCode ·) = true := by
            rw [split]
            simp [wrong]
          rw [if_neg (not_not.mpr fits), if_neg notAll]
          rfl
  · rw [if_pos marked, parse]
    split
    · rename_i rest starts
      rw [starts] at marked
      exact absurd rfl marked
    · rfl

theorem ofJson_eq_ok_iff {text : String} {address : Address} :
    ofJson text = .ok address ↔
      ∃ content, IsString text.toList content ∧ parse content = .ok address := by
  unfold ofJson
  constructor
  · intro read
    obtain ⟨⟨content, rest⟩, quoted, read⟩ := bind_eq_ok_iff.mp read
    obtain ⟨address, parsed, read⟩ := bind_eq_ok_iff.mp read
    obtain ⟨_, ended, ⟨⟩⟩ := bind_eq_ok_iff.mp read
    rw [mapError_eq_ok_iff] at quoted parsed ended
    obtain ⟨before, written, blank, spells, same⟩ := readString_eq_ok_iff.mp quoted
    exact ⟨content, ⟨before, written, rest, blank, spells, atEnd_eq_ok_iff.mp ended, same⟩, parsed⟩
  · rintro ⟨content, ⟨before, written, after, blank, spells, ended, same⟩, parsed⟩
    have quoted := readString_eq_ok_iff.mpr ⟨before, written, blank, spells, same⟩
    have atLast := atEnd_eq_ok_iff.mpr ended
    refine bind_eq_ok_iff.mpr ⟨_, mapError_eq_ok_iff.mpr quoted, ?_⟩
    refine bind_eq_ok_iff.mpr ⟨_, mapError_eq_ok_iff.mpr parsed, ?_⟩
    exact bind_eq_ok_iff.mpr ⟨(), mapError_eq_ok_iff.mpr atLast, rfl⟩

/-- The JSON form is the text between quotes. -/
theorem isString_toJson (address : Address) : IsString address.toJson.toList address.text := by
  refine ⟨[], address.text.toList, [], .nil, spells_of_plain ?_, .nil, ?_⟩
  · rw [toList_text]
    simp only [List.forall_mem_cons]
    exact ⟨by decide, by decide, (Hex.denotes_encode _).plain⟩
  · simp [toJson]

theorem ofJson_toJson (address : Address) : ofJson address.toJson = .ok address :=
  ofJson_eq_ok_iff.mpr ⟨_, address.isString_toJson, address.parse_text⟩

end Address

namespace Wallet

variable {σ : Type} [Entropy (StateM σ)] {wallet : Wallet (StateM σ)} {password : String}
  {state middle after : σ} {address expected derived : Address}

/-- With a tag or without one, a seed that was found is checked first. -/
theorem execute_unlock_of_ok {vault : Vault} {seed : Seed} (address : Address)
    (got : execute wallet.store.get state = (.ok (some vault), middle))
    (opened : vault.unlock password = .ok seed) :
    ∃ next : ExceptT WalletError (StateM σ) UnlockedWallet,
      (∀ expected derived after,
        execute next middle ≠ (.error (.addressMismatch expected derived), after)) ∧
      execute (wallet.unlock password (some address)) state =
        execute (do checkAddress address seed.address; next) middle := by
  have read : execute wallet.vault? state = (.ok (some vault), middle) :=
    execute_adapt_eq_ok_iff.mpr got
  cases authenticated : vault.isAuthenticated with
  | true =>
      refine ⟨pure ⟨seed, .tagged⟩, by simp, ?_⟩
      rw [unlock, execute_bind, read]
      dsimp only
      rw [opened, execute_bind]
      change execute (if vault.isAuthenticated = true then _ else _) middle = _
      rw [if_pos authenticated]
      rfl
  | false =>
      refine ⟨do wallet.lockAndStore seed password; return ⟨seed, .addressMatched⟩, ?_, ?_⟩
      · intro expected derived after ran
        rcases execute_bind_cases ran with ⟨_, same, failed⟩ | ⟨_, _, _, done⟩
        · cases same
          rcases exists_of_lockAndStore_eq_error failed with ⟨_, ⟨⟩⟩ | ⟨_, ⟨⟩⟩
        · cases done
      · rw [unlock, execute_bind, read]
        dsimp only
        rw [opened, execute_bind]
        change execute (if vault.isAuthenticated = true then _ else _) middle = _
        rw [authenticated, if_neg Bool.false_ne_true]
        rfl

/-- Unlocking finds another address exactly if the vault opens to a seed with another one. -/
theorem execute_unlock_eq_mismatch_iff :
    execute (wallet.unlock password (some address)) state =
        (.error (.addressMismatch expected derived), after) ↔
      ∃ vault seed, execute wallet.store.get state = (.ok (some vault), after) ∧
        vault.unlock password = .ok seed ∧ expected = address ∧ derived = seed.address ∧
        address ≠ seed.address := by
  constructor
  · intro ran
    rcases execute_bind_cases ran with ⟨_, same, failed⟩ | ⟨found, middle, got, further⟩
    · obtain ⟨_, rfl, _⟩ := execute_adapt_eq_error_iff.mp failed
      cases same
    · cases found with
      | none => cases further
      | some vault =>
          rcases execute_bind_cases further with ⟨_, same, failed⟩ | ⟨seed, _, opened, _⟩
          · rw [execute_mk_pure, Prod.mk.injEq, mapError_eq_error_iff] at failed
            obtain ⟨⟨_, rfl, _⟩, _⟩ := failed
            cases same
          · rw [execute_mk_pure, Prod.mk.injEq, mapError_eq_ok_iff] at opened
            rw [vault?, execute_adapt_eq_ok_iff] at got
            obtain ⟨next, never, same⟩ := execute_unlock_of_ok address got opened.1
            rw [same, execute_bind] at ran
            by_cases sameAddress : address = seed.address
            · rw [sameAddress, execute_checkAddress_self] at ran
              exact absurd ran (never _ _ _)
            · rw [execute_checkAddress_of_ne sameAddress] at ran
              cases ran
              exact ⟨vault, seed, got, opened.1, rfl, rfl, sameAddress⟩
  · rintro ⟨vault, seed, got, opened, rfl, rfl, different⟩
    obtain ⟨next, _, same⟩ := execute_unlock_of_ok expected got opened
    rw [same, execute_bind, execute_checkAddress_of_ne different]

end Wallet

/-- Addresses and public keys correspond. The texts that are read are those that name a public key,
by the mark `k:` and 64 digits of either case, and two texts are the same address exactly if they
name the same key. The text of an address is what was read, in lower case, and is read back, as is
its JSON form. An expected address differs from that of a seed exactly if its text does not name
the public key of the seed. -/
theorem Address.names_one_public_key :
    (∀ text address, parse text = .ok address ↔ Names text address.publicKey) ∧
    (∀ text, (∃ address, parse text = .ok address) ↔
      ∃ digits, text.toList = 'k' :: ':' :: digits ∧ digits.length = 64 ∧
        ∀ char ∈ digits, ∃ digit, Text.hexDigit? char = some digit) ∧
    (∀ left right publicKey other, Names left publicKey → Names right other →
      (parse left = parse right ↔ publicKey = other)) ∧
    (∀ left right : Address, left.text = right.text → left = right) ∧
    (∀ address : Address, parse address.text = .ok address ∧
      address.text = "k:" ++ address.digits ∧ address.digits.length = 64 ∧
        Vault.LowerDigits address.digits address.publicKey.toList) ∧
    (∀ text address, parse text = .ok address →
      address.text.toList = text.toList.map Char.toLower) ∧
    (∀ address : Address, ofJson address.toJson = .ok address) ∧
    (∀ text address, ofJson text = .ok address ↔
      ∃ content, Json.IsString text.toList content ∧ parse content = .ok address) ∧
    (∀ seed, (KeyPair.derive seed).address = ⟨sha256 (seed.bytes.toList ++ [1])⟩) ∧
    ∀ (σ : Type) [Entropy (StateM σ)] (wallet : Wallet (StateM σ)) password state after text
      address expected derived, parse text = .ok address →
        (execute (wallet.unlock password (some address)) state =
            (.error (.addressMismatch expected derived), after) ↔
          ∃ vault seed, execute wallet.store.get state = (.ok (some vault), after) ∧
            vault.unlock password = .ok seed ∧ expected = address ∧
            derived = (KeyPair.derive seed).address ∧
            ¬ Names text (sha256 (seed.bytes.toList ++ [1]))) := by
  refine ⟨fun _ _ => parse_eq_ok_iff, ?read, ?same, fun _ _ => text_injective, ?text,
    fun _ _ => toList_text_of_parse, ofJson_toJson, fun _ _ => ofJson_eq_ok_iff, fun _ => rfl,
    ?unlock⟩
  case read =>
    intro text
    rw [← exists_names_iff]
    constructor
    · rintro ⟨address, read⟩
      exact ⟨_, parse_eq_ok_iff.mp read⟩
    · rintro ⟨publicKey, names⟩
      exact ⟨_, names.parse_eq⟩
  case same =>
    intro left right publicKey other names namesOther
    rw [names.parse_eq, namesOther.parse_eq, Except.ok.injEq, mk.injEq]
  case text =>
    intro address
    have lower : Vault.LowerDigits address.digits address.publicKey.toList :=
      Vault.lowerDigits_iff.mpr rfl
    obtain ⟨_, length, _⟩ := Hex.denotes_iff.mp lower.denotes
    rw [Vector.length_toList] at length
    exact ⟨address.parse_text, rfl, length, lower⟩
  case unlock =>
    intro σ entropy wallet password state after text address expected derived read
    rw [Wallet.execute_unlock_eq_mismatch_iff]
    have differs (seed : Seed) :
        address ≠ seed.address ↔ ¬ Names text (sha256 (seed.bytes.toList ++ [1])) := by
      refine not_congr ⟨?_, ?_⟩
      · rintro rfl
        exact parse_eq_ok_iff.mp read
      · intro names
        exact Except.ok.inj (read.symm.trans names.parse_eq)
    simp only [differs]
    rfl

/-- Capitals are the same address, and a seal of another seed is told from it. -/
theorem Address.names_one_public_key_capitals :
    let capitals := "k:" ++ String.ofList (List.replicate 64 'A')
    let seed : Seed := ⟨Bytes.ofNat 32 42⟩
    let vault := Vault.lockWith seed "password" (Bytes.ofNat 16 1) (Bytes.ofNat 16 2)
    let machine : Machine := { disk := { start := [] }, vault := some vault }
    ∃ address, parse capitals = .ok address ∧
      address.text = "k:" ++ String.ofList (List.replicate 64 'a') ∧
      parse address.text = parse capitals ∧
      ofJson ("\"" ++ capitals ++ "\"") = .ok address ∧
      execute ((Wallet.inMemory {} 3).unlock "password" (some address)) machine =
        (.error (.addressMismatch address (KeyPair.derive seed).address), machine) := by
  intro capitals seed vault machine
  have opened : vault.unlock "password" = .ok seed := Vault.unlock_lockWith seed "password" _ _
  have stored : execute (Store.memory : Store (StateM Machine)).get machine =
    (.ok (some vault), machine) := rfl
  have other : sha256 (seed.bytes.toList ++ [1]) ≠ Vector.replicate 32 0xaa := by decide +kernel
  -- The password is not stretched here: of the vault only what it opens to matters.
  clear_value machine vault seed
  obtain ⟨read, _, _, _, again, lower, _, json, _, unlock⟩ := names_one_public_key
  have marked (char : Char) : ("k:" ++ String.ofList (List.replicate 64 char)).toList =
      'k' :: ':' :: List.replicate 64 char := by
    simp only [String.toList_append, String.toList_ofList]
    rfl
  have denotes (count : Nat) :
      Hex.Denotes (List.replicate (2 * count) 'A') (List.replicate count 0xaa) := by
    induction count with
    | zero => exact .nil
    | succ count ih =>
        have pair : Text.hexDigit? 'A' = some 10 := by decide
        exact .cons pair pair rfl ih
  have parsed : parse capitals = .ok ⟨Vector.replicate 32 0xaa⟩ :=
    (read _ ⟨_⟩).mpr ⟨_, marked 'A', denotes 32⟩
  have notNamed : ¬ Names capitals (sha256 (seed.bytes.toList ++ [1])) := by
    intro names
    have same := ((read _ ⟨_⟩).mpr names).symm.trans parsed
    exact other (congrArg Address.publicKey (Except.ok.inj same))
  have folded : capitals.toList.map Char.toLower =
      ("k:" ++ String.ofList (List.replicate 64 'a')).toList := by
    rw [marked, marked, List.map_cons, List.map_cons, List.map_replicate]
    rfl
  have isString : Json.IsString ("\"" ++ capitals ++ "\"").toList capitals := by
    refine ⟨[], capitals.toList, [], .nil, Json.spells_of_plain ?_, .nil, ?_⟩
    · rw [marked, List.forall_mem_cons, List.forall_mem_cons]
      refine ⟨by decide, by decide, fun char among => ?_⟩
      rw [List.eq_of_mem_replicate among]
      decide
    · rw [String.toList_append, String.toList_append, List.append_nil]
      exact congrArg (fun quote => quote ++ capitals.toList ++ quote)
        (by decide : "\"".toList = ['"'])
  refine ⟨_, parsed, String.toList_inj.mp ((lower capitals _ parsed).trans folded),
    (again _).1.trans parsed.symm, (json _ _).mpr ⟨capitals, isString, parsed⟩, ?_⟩
  exact (unlock _ _ "password" _ _ capitals _ _ _ parsed).mpr
    ⟨vault, seed, stored, opened, rfl, rfl, notNamed⟩

end SeedVault
