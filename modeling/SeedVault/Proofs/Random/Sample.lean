/-
Samples are distinct and in their range, whatever words are drawn. Draws are bounded by the length
after which the stream repeats itself, and the bound takes nothing away: a draw that would end
without it ends with it.
-/

import SeedVault.Random.ChaCha
import SeedVault.Random.Sample
import Mathlib.Data.List.Nodup

namespace SeedVault

namespace Sample

variable {range bound start count attempts place after rejected value : Nat} {word : UInt32}
  {stream : Nat → UInt32} {bounds chosen final : List Nat}

theorem pick?_le (picked : pick? (bound + 1) word = some value) : value ≤ bound := by
  rw [pick?, Option.ite_none_right_eq_some, Option.some.injEq] at picked
  obtain ⟨_, rfl⟩ := picked
  have short : word.toNat < wordRange := word.toNat_lt
  have fits : word.toNat * (bound + 1) < wordRange * (bound + 1) :=
    Nat.mul_lt_mul_of_pos_right short bound.succ_pos
  exact Nat.le_of_lt_succ (Nat.div_lt_of_lt_mul fits)

/-- The values that are chosen so far are distinct and below a bound. -/
structure Spread (chosen : List Nat) (bound : Nat) : Prop where
  nodup : chosen.Nodup
  below : ∀ value ∈ chosen, value < bound

/-- A value that is at most the bound is added, or else the bound, which is not chosen yet. -/
theorem Spread.add (spread : Spread chosen bound) (small : value ≤ bound) :
    Spread ((if value ∈ chosen then bound else value) :: chosen) (bound + 1) := by
  have fresh : (if value ∈ chosen then bound else value) ∉ chosen := by
    split
    · exact fun member => Nat.lt_irrefl bound (spread.below bound member)
    · assumption
  have bounded : (if value ∈ chosen then bound else value) ≤ bound := by
    split
    · exact Nat.le_refl bound
    · exact small
  constructor
  · exact List.nodup_cons.mpr ⟨fresh, spread.nodup⟩
  · intro other member
    rcases List.mem_cons.mp member with rfl | member
    · exact Nat.lt_succ_of_le bounded
    · exact Nat.lt_succ_of_lt (spread.below other member)

/-- One value is added for each bound, whichever values up to the bounds are drawn. -/
inductive Picks : (bounds chosen final : List Nat) → Prop
  | done {chosen : List Nat} : Picks [] chosen chosen
  | next {bound value : Nat} {bounds chosen final : List Nat} : value ≤ bound →
      Picks bounds ((if value ∈ chosen then bound else value) :: chosen) final →
        Picks (bound :: bounds) chosen final

/-- Rising bounds keep the values distinct: each step leaves the next bound free. -/
theorem Picks.spread (picks : Picks (List.range' start count) chosen final)
    (spread : Spread chosen start) :
    Spread final (start + count) ∧ final.length = chosen.length + count := by
  induction count generalizing start chosen with
  | zero =>
      cases picks
      exact ⟨spread, rfl⟩
  | succ count ih =>
      rw [List.range'_succ] at picks
      cases picks with
      | next small picks =>
          obtain ⟨spread, length⟩ := ih picks (spread.add small)
          rw [List.length_cons] at length
          rw [Nat.add_right_comm start 1 count] at spread
          exact ⟨spread, by omega⟩

/-- A draw without a bound: it rejects some words and takes the value of the next one. -/
structure Draws (range : Nat) (stream : Nat → UInt32) (place rejected value : Nat) : Prop where
  rejects : ∀ index < rejected, pick? range (stream (place + index)) = none
  accepts : pick? range (stream (place + rejected)) = some value

theorem draws_zero_iff :
    Draws range stream place 0 value ↔ pick? range (stream place) = some value :=
  ⟨fun draws => draws.accepts, fun accepted => ⟨nofun, accepted⟩⟩

theorem draws_succ_iff :
    Draws range stream place (rejected + 1) value ↔
      pick? range (stream place) = none ∧ Draws range stream (place + 1) rejected value := by
  constructor
  · rintro ⟨rejects, accepts⟩
    refine ⟨rejects 0 rejected.succ_pos, fun index before => ?_, ?_⟩
    · rw [Nat.add_right_comm]
      exact rejects (index + 1) (Nat.succ_lt_succ before)
    · rw [Nat.add_right_comm]
      exact accepts
  · rintro ⟨first, rejects, accepts⟩
    rw [Nat.add_right_comm] at accepts
    refine ⟨fun index before => ?_, accepts⟩
    cases index with
    | zero => exact first
    | succ index =>
        rw [← Nat.add_assoc, Nat.add_right_comm]
        exact rejects index (Nat.lt_of_succ_lt_succ before)

/-- A bounded draw ends like the one without a bound, if that one rejects few enough words. -/
theorem draw?_eq_some_iff :
    draw? range stream attempts place = some (value, after) ↔
      ∃ rejected < attempts, Draws range stream place rejected value ∧
        after = place + rejected + 1 := by
  induction attempts generalizing place with
  | zero => exact iff_of_false nofun (by rintro ⟨_, ⟨⟩, _⟩)
  | succ attempts ih =>
      rw [draw?]
      cases picked : pick? range (stream place) with
      | some first =>
          simp only [Option.some.injEq, Prod.mk.injEq]
          constructor
          · rintro ⟨rfl, rfl⟩
            exact ⟨0, attempts.succ_pos, draws_zero_iff.mpr picked, rfl⟩
          · rintro ⟨rejected, _, draws, rfl⟩
            cases rejected with
            | zero => exact ⟨Option.some.inj (picked.symm.trans draws.accepts), rfl⟩
            | succ => cases picked.symm.trans (draws_succ_iff.mp draws).1
      | none =>
          simp only [ih]
          constructor
          · rintro ⟨rejected, few, draws, rfl⟩
            exact ⟨rejected + 1, Nat.succ_lt_succ few, draws_succ_iff.mpr ⟨picked, draws⟩,
              by omega⟩
          · rintro ⟨rejected, few, draws, rfl⟩
            cases rejected with
            | zero => cases picked.symm.trans draws.accepts
            | succ rejected =>
                exact ⟨rejected, Nat.lt_of_succ_lt_succ few, (draws_succ_iff.mp draws).2,
                  by omega⟩

/-- Sampling without a bound on its draws: for each of the bounds in turn a draw ends, and the
next one goes on behind it. -/
inductive Chooses (stream : Nat → UInt32) :
    (bounds : List Nat) → (place : Nat) → (chosen final : List Nat) → Prop
  | done {place : Nat} {chosen : List Nat} : Chooses stream [] place chosen chosen
  | next {bound place rejected value : Nat} {bounds chosen final : List Nat} :
      Draws (bound + 1) stream place rejected value →
        Chooses stream bounds (place + rejected + 1)
            ((if value ∈ chosen then bound else value) :: chosen) final →
          Chooses stream (bound :: bounds) place chosen final

theorem Chooses.picks (chooses : Chooses stream bounds place chosen final) :
    Picks bounds chosen final := by
  induction chooses with
  | done => exact .done
  | next draws _ ih => exact .next (pick?_le draws.accepts) ih

theorem picks_choose (stream : Nat → UInt32) (bounds : List Nat) (place : Nat) (chosen : List Nat) :
    Picks bounds chosen (choose stream bounds place chosen) := by
  induction bounds generalizing place chosen with
  | nil => exact .done
  | cons bound bounds ih =>
      rw [choose]
      cases drawn : draw? (bound + 1) stream period place with
      | none => exact .next (Nat.le_refl bound) (ih _ _)
      | some pair =>
          obtain ⟨rejected, _, draws, _⟩ := draw?_eq_some_iff.mp drawn
          exact .next (pick?_le draws.accepts) (ih _ _)

/-- A stream starts again after its period. -/
def Repeats (stream : Nat → UInt32) : Prop :=
  ∀ place, stream (place + period) = stream place

/-- If all the words of a period are rejected, then no draw ends. -/
theorem Draws.lt_period (repeats : Repeats stream)
    (draws : Draws range stream place rejected value) : rejected < period := by
  by_contra long
  have later : period ≤ rejected := Nat.not_lt.mp long
  have positive : 0 < period := by decide
  have earlier := draws.rejects (rejected - period) (by omega)
  rw [← repeats, Nat.add_assoc, Nat.sub_add_cancel later, draws.accepts] at earlier
  cases earlier

/-- Sampling that ends gives the sample. -/
theorem Chooses.choose_eq (chooses : Chooses stream bounds place chosen final)
    (repeats : Repeats stream) : choose stream bounds place chosen = final := by
  induction chooses with
  | done => rfl
  | next draws _ ih =>
      rw [choose, draw?_eq_some_iff.mpr ⟨_, draws.lt_period repeats, draws, rfl⟩]
      exact ih

end Sample

/-- Of the number of a block only its last 64 bits count. -/
theorem ChaCha.initial_congr (key : Bytes 32) {left right : Nat}
    (same : left % 1 <<< 64 = right % 1 <<< 64) : initial key left = initial key right := by
  rw [Nat.one_shiftLeft] at same
  have low : left.toUInt32 = right.toUInt32 := by
    apply UInt32.toNat.inj
    rw [Nat.toUInt32_eq, Nat.toUInt32_eq, UInt32.toNat_ofNat', UInt32.toNat_ofNat']
    omega
  have high : (left >>> 32).toUInt32 = (right >>> 32).toUInt32 := by
    apply UInt32.toNat.inj
    rw [Nat.toUInt32_eq, Nat.toUInt32_eq, UInt32.toNat_ofNat', UInt32.toNat_ofNat',
      Nat.shiftRight_eq_div_pow, Nat.shiftRight_eq_div_pow]
    omega
  simp only [initial, low, high]

/-- A block has sixteen words. -/
theorem ChaCha.stream_repeats (key : Bytes 32) : Sample.Repeats (stream key) := by
  intro place
  have sameWord : (place + Sample.period) % 16 = place % 16 := by
    rw [Sample.period]
    omega
  have sameBlock : (place + Sample.period) / 16 % 1 <<< 64 = place / 16 % 1 <<< 64 := by
    rw [Sample.period, Nat.one_shiftLeft, Nat.one_shiftLeft]
    omega
  simp only [stream, sameWord, block, initial_congr key sameBlock]

end SeedVault
