/-
Which words a challenge asks for: different ones that are in the phrase, in the order of the
phrase, and as many as are wanted, but at least one and at most twelve. So a new wallet is never
finished without an answer.
-/

import SeedVault.Proofs.Command.Create
import SeedVault.Proofs.Random.Sample
import Mathlib.Data.List.Destutter
import Mathlib.Data.List.Sort

namespace SeedVault

namespace Challenge

variable {challenge : Challenge} {places others result final : List Nat} {count place : Nat}

/-- The places of a challenge as numbers. -/
def positions (challenge : Challenge) : List Nat :=
  challenge.places.map Fin.val

theorem pairwise_positions (challenge : Challenge) : challenge.positions.Pairwise (· < ·) :=
  List.pairwise_map.mpr challenge.ascending

theorem lt_of_mem_positions (member : place ∈ challenge.positions) : place < 12 := by
  obtain ⟨asked, _, rfl⟩ := List.mem_map.mp member
  exact asked.isLt

theorem mem_positions_ofPlaces :
    place ∈ (ofPlaces places).positions ↔ place ∈ places ∧ place < 12 := by
  simp only [positions, ofPlaces, List.mem_map, List.mem_filter, List.mem_finRange, true_and,
    decide_eq_true_eq]
  constructor
  · rintro ⟨asked, member, rfl⟩
    exact ⟨member, asked.isLt⟩
  · rintro ⟨member, inside⟩
    exact ⟨⟨place, inside⟩, member, rfl⟩

/-- The places of a challenge are the ascending list of the given ones that are in the phrase. -/
theorem positions_ofPlaces_eq_iff :
    (ofPlaces places).positions = result ↔
      result.Pairwise (· < ·) ∧ ∀ place, place ∈ result ↔ place ∈ places ∧ place < 12 := by
  constructor
  · rintro rfl
    exact ⟨pairwise_positions _, fun _ => mem_positions_ofPlaces⟩
  · rintro ⟨ascending, members⟩
    refine (pairwise_positions _).eq_of_mem_iff ascending fun place => ?_
    rw [mem_positions_ofPlaces, members]

/-- Only the places that are in the phrase count, not their order and not how often they stand. -/
theorem ofPlaces_congr (same : ∀ place < 12, place ∈ places ↔ place ∈ others) :
    ofPlaces places = ofPlaces others := by
  have filtered : (ofPlaces places).places = (ofPlaces others).places :=
    List.filter_congr fun (place : Fin 12) _ => decide_eq_decide.mpr (same place place.isLt)
  exact Challenge.mk.injEq _ _ _ _ ▸ filtered

theorem pairwise_lt_of_nodup (ascending : places.Pairwise (· ≤ ·)) (distinct : places.Nodup) :
    places.Pairwise (· < ·) :=
  ascending.imp₂ (fun _ _ atMost different => lt_of_le_of_ne atMost different) distinct

/-- The places of a challenge are the given ones in the phrase, sorted, with neighbours that are the
same taken together. -/
theorem positions_ofPlaces (places : List Nat) :
    (ofPlaces places).positions = (places.filter (· < 12)).mergeSort.destutter (· ≠ ·) := by
  have ascending := List.pairwise_mergeSort' (· ≤ ·) (places.filter (· < 12))
  rw [ascending.destutter_eq_dedup]
  refine positions_ofPlaces_eq_iff.mpr ⟨?_, fun place => ?_⟩
  · exact pairwise_lt_of_nodup (ascending.sublist (List.dedup_sublist _)) (List.nodup_dedup _)
  · rw [List.mem_dedup, List.mem_mergeSort, List.mem_filter, decide_eq_true_eq]

/-- Different places in the phrase are all asked for. -/
theorem length_positions_ofPlaces (spread : Sample.Spread places 12) :
    (ofPlaces places).positions.length = places.length := by
  have distinct : (ofPlaces places).positions.Nodup := (pairwise_positions _).imp Nat.ne_of_lt
  apply List.Perm.length_eq
  rw [List.perm_ext_iff_of_nodup distinct spread.nodup]
  intro place
  rw [mem_positions_ofPlaces]
  exact and_iff_left_of_imp (spread.below place)

/-- Places of a challenge that asks for a number of words. -/
structure AreFor (count : Nat) (positions : List Nat) : Prop where
  length : positions.length = min (max count 1) 12
  ascending : positions.Pairwise (· < ·)
  inside : ∀ place ∈ positions, place < 12

theorem AreFor.ne_nil (areFor : AreFor count places) : places ≠ [] := by
  rintro rfl
  have empty : 0 = min (max count 1) 12 := areFor.length
  omega

/-- The bounds up to which the places of a challenge are drawn. -/
def bounds (count : Nat) : List Nat :=
  List.range' (12 - clampCount count) (clampCount count)

theorem spread_of_picks (picks : Sample.Picks (bounds count) [] final) :
    Sample.Spread final 12 ∧ final.length = clampCount count := by
  obtain ⟨spread, length⟩ := picks.spread ⟨List.nodup_nil, nofun⟩
  have whole : 12 - clampCount count + clampCount count = 12 :=
    Nat.sub_add_cancel (Nat.min_le_right _ _)
  rw [whole] at spread
  exact ⟨spread, length.trans (Nat.zero_add _)⟩

theorem areFor_of_picks (picks : Sample.Picks (bounds count) [] final) :
    AreFor count (ofPlaces final).positions := by
  obtain ⟨spread, length⟩ := spread_of_picks picks
  refine ⟨?_, pairwise_positions _, fun _ => lt_of_mem_positions⟩
  rw [length_positions_ofPlaces spread, length, clampCount]

theorem areFor_ofStream (count : Nat) (stream : Nat → UInt32) :
    AreFor count (ofStream count stream).positions :=
  areFor_of_picks (Sample.picks_choose stream (bounds count) 0 [])

/-- The places of a challenge that is drawn are the sample, sorted. -/
theorem positions_ofStream (count : Nat) (stream : Nat → UInt32) :
    (ofStream count stream).positions =
      (Sample.distinct 12 (clampCount count) stream).mergeSort := by
  obtain ⟨spread, _⟩ := spread_of_picks (Sample.picks_choose stream (bounds count) 0 [])
  have distinct := (List.mergeSort_perm _ (· ≤ ·)).nodup_iff.mpr spread.nodup
  refine positions_ofPlaces_eq_iff.mpr ⟨?_, fun place => ?_⟩
  · exact pairwise_lt_of_nodup (List.pairwise_mergeSort' (· ≤ ·) _) distinct
  · rw [List.mem_mergeSort]
    exact (and_iff_left_of_imp (spread.below place)).symm

theorem ofStream_eq {stream : Nat → UInt32}
    (chooses : Sample.Chooses stream (bounds count) 0 [] final) (repeats : Sample.Repeats stream) :
    ofStream count stream = ofPlaces final :=
  congrArg ofPlaces (chooses.choose_eq repeats)

theorem verify_nil (phrase : Phrase) (asked : challenge.positions ≠ []) :
    challenge.verify phrase [] = false := by
  rw [verify]
  cases places : challenge.places with
  | nil => exact absurd (congrArg (List.map Fin.val) places) asked
  | cons => rfl

section

variable {σ : Type} [Entropy (StateM σ)] {state after : σ}

theorem random_eq_ok {drawn : Challenge}
    (ran : execute (random count : ExceptT SeedError (StateM σ) Challenge) state =
      (.ok drawn, after)) : ∃ key, drawn = ofKey count key := by
  rw [random, execute_map] at ran
  rcases taken : execute (Entropy.drawOr .randomness 32 :
    ExceptT SeedError (StateM σ) (Bytes 32)) state with ⟨_ | key, middle⟩
  · rw [taken] at ran
    cases ran
  · rw [taken] at ran
    cases ran
    exact ⟨key, rfl⟩

/-- A new wallet that is handed out is one for the password, with a challenge drawn for it. -/
theorem beginCreate_pending {wallet : Wallet (StateM σ)} {password confirmation : String}
    {pending : PendingWallet}
    (ran : execute (wallet.beginCreate password confirmation) state = (.ok pending, after)) :
    ∃ phrase key analysis,
      pending = ⟨phrase, ofKey wallet.challengeWords key, password, analysis⟩ := by
  rcases execute_bind_cases ran with ⟨_, ⟨⟩, _⟩ | ⟨stored, first, _, ran⟩
  cases stored with
  | true => cases ran
  | false =>
      rcases execute_bind_cases ran with ⟨_, ⟨⟩, _⟩ | ⟨analysis, second, _, ran⟩
      rcases execute_bind_cases ran with ⟨_, ⟨⟩, _⟩ | ⟨phrase, third, _, ran⟩
      rcases execute_bind_cases ran with ⟨_, ⟨⟩, _⟩ | ⟨drawn, fourth, passed, ran⟩
      obtain ⟨key, rfl⟩ := random_eq_ok (execute_adapt_eq_ok_iff.mp passed)
      cases ran
      exact ⟨phrase, key, analysis, rfl⟩

theorem beginCreate_challenge {wallet : Wallet (StateM σ)} {password confirmation : String}
    {pending : PendingWallet}
    (ran : execute (wallet.beginCreate password confirmation) state = (.ok pending, after)) :
    ∃ key, pending.challenge = ofKey wallet.challengeWords key := by
  obtain ⟨_, key, _, rfl⟩ := beginCreate_pending ran
  exact ⟨key, rfl⟩

/-- A new wallet with a challenge that asks for something is not finished without an answer. -/
theorem execute_finishCreate_nil {pending : PendingWallet} (wallet : Wallet (StateM σ))
    (asked : pending.challenge.positions ≠ []) :
    execute (wallet.finishCreate pending []) state = (.error .backupNotConfirmed, state) := by
  rw [Wallet.finishCreate, verify_nil pending.phrase asked]
  rfl

end

/-- A challenge asks for different words of the phrase, in their order, and for as many as are
wanted, but at least one and at most twelve. This is so for every stream of random words, however
many of them are rejected, and for every key; the sample is the one that drawing without a bound
ends with, if it ends. Of given places exactly those in the phrase are asked for, in whatever order
and however often they are given. So no new wallet is finished without an answer. -/
theorem asks_different_words :
    (∀ count stream, AreFor count (ofStream count stream).positions) ∧
    (∀ count stream final, Sample.Chooses stream (bounds count) 0 [] final →
      AreFor count (ofPlaces final).positions ∧
        (Sample.Repeats stream → ofStream count stream = ofPlaces final)) ∧
    (∀ count key final, Sample.Chooses (ChaCha.stream key) (bounds count) 0 [] final →
      AreFor count (ofKey count key).positions ∧ ofKey count key = ofPlaces final) ∧
    (∀ places result, (ofPlaces places).positions = result ↔
      result.Pairwise (· < ·) ∧ ∀ place, place ∈ result ↔ place ∈ places ∧ place < 12) ∧
    (∀ places others, (∀ place < 12, place ∈ places ↔ place ∈ others) →
      ofPlaces places = ofPlaces others) ∧
    ∀ (σ : Type) [Entropy (StateM σ)] (state after : σ),
      (∀ count drawn,
        execute (random count : ExceptT SeedError (StateM σ) Challenge) state =
          (.ok drawn, after) → AreFor count drawn.positions ∧ ∃ key, drawn = ofKey count key) ∧
      ∀ (wallet : Wallet (StateM σ)) password confirmation pending,
        execute (wallet.beginCreate password confirmation) state = (.ok pending, after) →
          AreFor wallet.challengeWords pending.challenge.positions ∧
            pending.challenge.positions ≠ [] ∧
            ∀ (other : Wallet (StateM σ)) (later : σ),
              execute (other.finishCreate pending []) later =
                (.error .backupNotConfirmed, later) := by
  refine ⟨areFor_ofStream, ?streams, ?keys, fun _ _ => positions_ofPlaces_eq_iff,
    fun _ _ => ofPlaces_congr, ?draws⟩
  case streams =>
    intro count stream final chooses
    exact ⟨areFor_of_picks chooses.picks, ofStream_eq chooses⟩
  case keys =>
    intro count key final chooses
    exact ⟨areFor_ofStream count _, ofStream_eq chooses (ChaCha.stream_repeats key)⟩
  case draws =>
    intro σ _ state after
    constructor
    · intro count drawn ran
      obtain ⟨key, rfl⟩ := random_eq_ok ran
      exact ⟨areFor_ofStream count _, key, rfl⟩
    · intro wallet password confirmation pending ran
      obtain ⟨key, isDrawn⟩ := beginCreate_challenge ran
      have areFor : AreFor wallet.challengeWords pending.challenge.positions :=
        isDrawn ▸ areFor_ofStream wallet.challengeWords _
      exact ⟨areFor, areFor.ne_nil, fun other _ => execute_finishCreate_nil other areFor.ne_nil⟩

/-- Three words are drawn from a stream of zeros, of which the second one and the third one are
collisions, and a new wallet is begun over an empty store. -/
theorem asks_different_words_zeros :
    let stream : Nat → UInt32 := fun _ => 0
    let wallet : Wallet (StateM Machine) := .inMemory {} 3
    let machine : Machine := { disk := { start := [] }, entropy := List.replicate 48 0 }
    (Sample.Chooses stream (bounds 3) 0 [] [11, 10, 0] ∧ Sample.Repeats stream ∧
      ofStream 3 stream = ofPlaces [11, 10, 0] ∧ (ofStream 3 stream).positions = [0, 10, 11]) ∧
    ∃ pending after,
      execute (wallet.beginCreate "password" "password") machine = (.ok pending, after) ∧
        pending.challenge.positions ≠ [] ∧
        execute (wallet.finishCreate pending []) after = (.error .backupNotConfirmed, after) := by
  intro stream wallet machine
  have zero (bound place : Nat) : Sample.Draws (bound + 1) stream place 0 0 := by
    rw [Sample.draws_zero_iff, Sample.pick?]
    simp [stream]
  have chooses : Sample.Chooses stream (bounds 3) 0 [] [11, 10, 0] :=
    .next (zero 9 0) (.next (zero 10 1) (.next (zero 11 2) .done))
  have enough : machine.entropy = (Vector.replicate 16 0 : Bytes 16).toList ++
      ((Vector.replicate 32 0 : Bytes 32).toList ++ []) := by
    decide
  have long : ({} : Password.Policy).minLength ≤ "password".length := by decide
  obtain ⟨pending, after, began⟩ : ∃ pending after,
      execute (wallet.beginCreate "password" "password") machine = (.ok pending, after) :=
    ⟨_, _, Wallet.beginCreate_eq_ok_iff.mpr ⟨rfl, long, rfl, ⟨_⟩, _, _, rfl, enough, rfl⟩⟩
  obtain ⟨_, streams, _, _, _, draws⟩ := asks_different_words
  obtain ⟨_, sampled⟩ := streams 3 stream _ chooses
  have same := sampled fun _ => rfl
  obtain ⟨_, begins⟩ := draws Machine machine after
  obtain ⟨_, asked, refuses⟩ := begins wallet "password" "password" pending began
  refine ⟨⟨chooses, fun _ => rfl, same, ?_⟩, pending, after, began, asked, refuses wallet after⟩
  rw [same]
  decide

end Challenge

end SeedVault
