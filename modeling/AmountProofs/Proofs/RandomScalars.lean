import AmountProofs.Proofs.ProverVerdict
import Mathlib.Data.List.Count

/-!
Scalars drawn one after the other from one supply.

A draw passes over the blocks whose number is a multiple of the order and takes the first other one.
So any number of draws give the residues of the first usable blocks in their order, no block serves
twice and none but the multiples of the order is left out; what was handed out ends with the last
block that was needed, and the supply is exhausted exactly if it has too few usable blocks
(`Tape.draws_outcome`).
-/

namespace AmountProofs

namespace Tape

/-- The positions of the usable blocks, counted from one. -/
def positions (tape : Tape) : List Nat := tape.findIdxs (IsUsable ·) 1

/-- Blocks that were just enough reach to the position of the last one that was needed. -/
theorem JustEnough.position {k : Nat} {used : Tape} (just : used.JustEnough k) (rest : Tape) :
    (0 :: positions (used ++ rest))[k]? = some used.length := by
  rcases List.eq_nil_or_concat used with none | ⟨front, block, split⟩
  · subst none
    rw [← just.count]
    rfl
  · subst split
    have good : IsUsable block := just.last block (by simp)
    have before : front.countP (IsUsable ·) + 1 = k := by
      rw [← just.count, List.concat_eq_append, List.countP_append, List.countP_singleton, if_pos]
      exact decide_eq_true good
    -- As many positions stand before that of the last block as there are usable blocks in front.
    have reached : (positions front).length = front.countP (IsUsable ·) := List.length_findIdxs
    rw [← before, List.getElem?_cons_succ, ← reached]
    unfold positions
    rw [List.concat_eq_append, List.append_assoc, List.findIdxs_append, List.singleton_append,
      List.findIdxs_cons, if_pos (decide_eq_true good), List.getElem?_append_right (Nat.le_refl _),
      Nat.sub_self, List.getElem?_cons_zero, List.length_append, List.length_singleton, Nat.add_comm]

/-- The usable blocks of a supply begin with those of what was taken of it. -/
theorem JustEnough.take_filter {k : Nat} {used : Tape} (just : used.JustEnough k) (rest : Tape) :
    ((used ++ rest).filter (IsUsable ·)).take k = used.filter (IsUsable ·) := by
  rw [List.filter_append]
  apply List.take_left'
  rw [← List.countP_eq_length_filter, just.count]

/-- A block gives the residue of its number. -/
theorem toNat_ofWide (block : Vector UInt8 64) :
    (Scalar.ofWide block).toNat = Bytes.toNat block.toList % Scalar.order := Scalar.toNat_ofNat _

/-- A usable block does not give zero. -/
theorem toNat_ofWide_pos {block : Vector UInt8 64} (good : IsUsable block) :
    0 < (Scalar.ofWide block).toNat := by
  apply Nat.pos_of_ne_zero
  intro zero
  exact isZero_ofWide_iff.1 (Scalar.isZero_iff.2 zero) good

/-- Drawn scalars are not zero. -/
theorem toNat_pos_of_draws {n : Nat} {used : Tape} {drawn : Fin n → Scalar}
    (listed : List.ofFn drawn = (used.filter (IsUsable ·)).map Scalar.ofWide) (j : Fin n) :
    0 < (drawn j).toNat := by
  have given : drawn j ∈ (used.filter (IsUsable ·)).map Scalar.ofWide :=
    listed ▸ List.mem_ofFn.2 ⟨j, rfl⟩
  rcases List.mem_map.1 given with ⟨block, kept, stored⟩
  rw [← stored]
  apply toNat_ofWide_pos
  exact of_decide_eq_true (List.mem_filter.1 kept).2

/-- With enough usable blocks the draws succeed: they give the residues of the first of these, and
take the blocks up to the last of them. -/
theorem exists_draws_residues {k : Nat} {tape : Tape}
    (enough : k ≤ (tape.filter (IsUsable ·)).length) :
    ∃ drawn taken,
      (Indexed.traverse fun _ : Fin k => scalar).on tape = (.ok drawn, tape.drop taken) ∧
      (0 :: tape.positions)[k]? = some taken ∧
      (List.ofFn fun j => (drawn j).toNat) =
        ((tape.filter (IsUsable ·)).take k).map
          (fun block => Bytes.toNat block.toList % Scalar.order) ∧
      ∀ j, 0 < (drawn j).toNat ∧ (drawn j).toNat < Scalar.order := by
  rw [← List.countP_eq_length_filter, ← usable_eq_countP] at enough
  rcases exists_draws enough with ⟨drawn, used, rest, run, split, just, listed⟩
  refine ⟨drawn, used.length, ?_, ?_, ?_, fun j => ⟨?_, ?_⟩⟩
  · rw [split, List.drop_left, ← split]
    exact run
  · rw [split]
    exact just.position rest
  · calc
      (List.ofFn fun j => (drawn j).toNat) = (List.ofFn drawn).map Scalar.toNat := by
        rw [List.map_ofFn]
        rfl
      _ = (used.filter (IsUsable ·)).map fun block => (Scalar.ofWide block).toNat := by
        rw [listed, List.map_map]
        rfl
      _ = ((tape.filter (IsUsable ·)).take k).map
            fun block => Bytes.toNat block.toList % Scalar.order := by
        simp only [toNat_ofWide, split, just.take_filter rest]
  · exact toNat_pos_of_draws listed j
  · exact Scalar.isCanonical_iff.1 (isCanonical_of_draws listed j)

/-- So many draws give the residues of the first so many usable blocks, in their order, none of them
zero and all of them reduced. The blocks handed out reach to the last one of these, and to no block
if nothing is drawn. The draws fail exactly if there are fewer usable blocks, by exhaustion and with
all blocks handed out. -/
theorem draws_outcome (k : Nat) (tape : Tape) :
    let draws : Attempt Tape (Fin k → Scalar) := Indexed.traverse fun _ => scalar
    let usable := tape.filter (IsUsable ·)
    (k ≤ usable.length → ∃ drawn taken, draws.on tape = (.ok drawn, tape.drop taken) ∧
      (0 :: tape.positions)[k]? = some taken ∧
      (List.ofFn fun j => (drawn j).toNat) =
        (usable.take k).map (fun block => Bytes.toNat block.toList % Scalar.order) ∧
      ∀ j, 0 < (drawn j).toNat ∧ (drawn j).toNat < Scalar.order) ∧
    (usable.length < k → draws.on tape = (.error .tapeExhausted, [])) ∧
    ((∃ e, (draws.on tape).1 = .error e) ↔ usable.length < k) := by
  intro draws usable
  have counted : usable.length = tape.usable := by
    rw [usable_eq_countP, List.countP_eq_length_filter]
  have short (few : usable.length < k) : draws.on tape = (.error .tapeExhausted, []) :=
    on_traverse_scalar_of_short (counted ▸ few)
  refine ⟨exists_draws_residues, short, ?_⟩
  constructor
  · intro ⟨e, failed⟩
    by_contra many
    rcases exists_draws_residues (Nat.le_of_not_lt many) with ⟨drawn, taken, run, -⟩
    rw [run] at failed
    cases failed
  · intro few
    exact ⟨_, congrArg Prod.fst (short few)⟩

/-- Of a block of zeros and two blocks of ones, two draws take all three and give the same residue
twice; a third draw fails. -/
theorem draws_outcome_of_three :
    let zeros : Vector UInt8 64 := Vector.replicate 64 0
    let ones : Vector UInt8 64 := Vector.replicate 64 1
    let tape : Tape := [zeros, ones, ones]
    (∃ drawn, (Indexed.traverse fun _ : Fin 2 => scalar).on tape = (.ok drawn, []) ∧
      List.ofFn (fun j => (drawn j).toNat) =
        List.replicate 2 (Bytes.toNat ones.toList % Scalar.order)) ∧
    (Indexed.traverse fun _ : Fin 3 => scalar).on tape = (.error .tapeExhausted, []) := by
  intro zeros ones tape
  have kept : tape.filter (IsUsable ·) = [ones, ones] := by decide +kernel
  have places : tape.positions = [2, 3] := by decide +kernel
  constructor
  · have enough : 2 ≤ (tape.filter (IsUsable ·)).length := by
      rw [kept]
      decide
    rcases (draws_outcome 2 tape).1 enough with ⟨drawn, taken, run, reached, residues, -⟩
    have all : taken = 3 := by
      rw [places] at reached
      exact (Option.some_inj.1 reached).symm
    refine ⟨drawn, ?_, ?_⟩
    · rw [run, all]
      rfl
    · rw [residues, kept]
      rfl
  · apply (draws_outcome 3 tape).2.1
    rw [kept]
    decide

end Tape

end AmountProofs
