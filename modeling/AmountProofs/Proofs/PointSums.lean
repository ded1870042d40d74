import AmountProofs.Proofs.GroupReading
import AmountProofs.Proof.Verifier
import Mathlib.Algebra.BigOperators.Group.List.Basic

/-!
Sums of multiples of points, read in the group.

Adding a term fails exactly if the curve is asked and refuses (`Multiscalar.step_eq_error_iff`), so a
sum fails exactly at the first term that is refused. Skipping the terms that vanish changes nothing,
so the two ways of summing are one. Over points of the group, a sum of admissible scalars is never
refused and is the sum of the multiples, whatever the partial sums are; a sum with other scalars may
be refused, but where it is not it is that sum too.
-/

namespace AmountProofs

variable {S : Suite} {E : Type} [AddCommGroup E] [Module Residue E]

/-! ## One term -/

namespace Multiscalar

/-- The neutral element is added to any stored point without a change. -/
theorem add_neutral (p : Point S) : p.add .neutral = .ok p := by
  unfold Point.add
  split
  · rename_i stored
    rw [Point.isNeutral, beq_iff_eq] at stored
    exact congrArg (Except.ok ∘ Point.mk) stored.symm
  · rfl

/-- Adds a term to a point. -/
def step (acc : Point S) (t : Term S) : Except Failure (Point S) := Point.mul t.1 t.2 >>= acc.add

/-- The curve refuses to add a term to a point: it is asked for the product and refuses it, or it is
then asked for the sum and refuses that. -/
def Refuses (acc : Point S) (t : Term S) : Prop :=
  vanishes t = false ∧
    (S.mul t.1 t.2.word = none ∨
      ∃ w, S.mul t.1 t.2.word = some w ∧ acc.isNeutral = false ∧ w ≠ Suite.neutralWord ∧
        S.add acc.word w = none)

theorem step_of_vanishes (acc : Point S) {t : Term S} (vanishing : vanishes t = true) :
    step acc t = .ok acc := by
  have product : Point.mul t.1 t.2 = .ok .neutral := if_pos vanishing
  rw [step, product]
  exact add_neutral acc

theorem step_of_mul_eq_none (acc : Point S) {t : Term S} (asked : vanishes t = false)
    (refused : S.mul t.1 t.2.word = none) : step acc t = .error .refused := by
  rw [step, Point.mul_of_asked (ne_true_of_eq_false asked), refused]
  rfl

theorem step_of_mul_eq_some (acc : Point S) {t : Term S} (asked : vanishes t = false) {w : Word}
    (product : S.mul t.1 t.2.word = some w) : step acc t = acc.add ⟨w⟩ := by
  rw [step, Point.mul_of_asked (ne_true_of_eq_false asked), product]
  rfl

/-- A sum of two points fails exactly if the curve is asked for it and refuses. -/
theorem add_eq_error_iff {acc : Point S} {w : Word} {e : Failure} :
    acc.add ⟨w⟩ = .error e ↔
      e = .refused ∧ acc.isNeutral = false ∧ w ≠ Suite.neutralWord ∧ S.add acc.word w = none := by
  constructor
  · intro failed
    unfold Point.add at failed
    split at failed
    · cases failed
    · rename_i left
      split at failed
      · cases failed
      · rename_i right
        rcases asked : S.add acc.word w with _ | sum
        · rw [asked] at failed
          cases failed
          exact ⟨rfl, Bool.eq_false_iff.2 left, fun stored => right (beq_iff_eq.2 stored), rfl⟩
        · rw [asked] at failed
          cases failed
  · rintro ⟨rfl, left, right, refused⟩
    have other : ¬(⟨w⟩ : Point S).isNeutral = true := fun stored => right (beq_iff_eq.1 stored)
    rw [Point.add, if_neg (ne_true_of_eq_false left), if_neg other, refused]
    rfl

/-- Adding a term fails exactly if the curve refuses it, and in one way. -/
theorem step_eq_error_iff {acc : Point S} {t : Term S} {e : Failure} :
    step acc t = .error e ↔ e = .refused ∧ Refuses acc t := by
  rcases asked : vanishes t with _ | _
  · rcases product : S.mul t.1 t.2.word with _ | w
    · rw [step_of_mul_eq_none acc asked product]
      exact ⟨fun failed => ⟨(Except.error.inj failed).symm, asked, .inl product⟩,
        fun ⟨same, _⟩ => congrArg Except.error same.symm⟩
    · rw [step_of_mul_eq_some acc asked product, add_eq_error_iff]
      refine and_congr_right fun _ => ⟨fun refused => ⟨asked, .inr ⟨w, product, refused⟩⟩, ?_⟩
      rintro ⟨-, none | ⟨w', product', refused⟩⟩
      · rw [product] at none
        cases none
      · rw [product] at product'
        cases product'
        exact refused
  · rw [step_of_vanishes acc asked]
    refine iff_of_false nofun ?_
    rintro ⟨-, other, -⟩
    rw [asked] at other
    cases other

/-! ## All terms -/

theorem accumulate_cons (acc : Point S) (t : Term S) (rest : List (Term S)) :
    accumulate acc (t :: rest) = step acc t >>= fun acc => accumulate acc rest := by
  rw [step, accumulate]
  cases Point.mul t.1 t.2 <;> rfl

theorem accumulate_append (acc : Point S) (before rest : List (Term S)) :
    accumulate acc (before ++ rest) = accumulate acc before >>= fun acc => accumulate acc rest := by
  induction before generalizing acc with
  | nil => rfl
  | cons t before ih =>
    rw [List.cons_append, accumulate_cons, accumulate_cons]
    cases step acc t with
    | error e => rfl
    | ok next => exact ih next

/-- A sum fails exactly if one of its terms is refused by what the terms before it gave. -/
theorem accumulate_eq_error_iff {acc : Point S} {terms : List (Term S)} {e : Failure} :
    accumulate acc terms = .error e ↔ e = .refused ∧
      ∃ before t after reached, terms = before ++ t :: after ∧
        accumulate acc before = .ok reached ∧ Refuses reached t := by
  constructor
  · intro failed
    induction terms generalizing acc with
    | nil => cases failed
    | cons term rest ih =>
      rw [accumulate_cons] at failed
      rcases added : step acc term with refusal | next
      · rw [added] at failed
        cases failed
        obtain ⟨rfl, refuses⟩ := step_eq_error_iff.1 added
        exact ⟨rfl, [], term, rest, acc, rfl, rfl, refuses⟩
      · rw [added] at failed
        obtain ⟨rfl, before, t, after, reached, rfl, run, refuses⟩ := ih failed
        refine ⟨rfl, term :: before, t, after, reached, rfl, ?_, refuses⟩
        rw [accumulate_cons, added]
        exact run
  · rintro ⟨rfl, before, t, after, reached, rfl, run, refuses⟩
    rw [accumulate_append, run]
    change accumulate reached (t :: after) = _
    rw [accumulate_cons, step_eq_error_iff.2 ⟨rfl, refuses⟩]
    rfl

theorem sum_eq_ok_iff {terms : List (Term S)} {p : Point S} :
    sum terms = .ok p ↔ accumulate .neutral terms = .ok p := by
  rw [sum]
  cases accumulate .neutral terms with
  | error e => exact iff_of_false nofun nofun
  | ok q => exact Iff.rfl

/-- A sum has one way to fail. -/
theorem sum_eq_error {terms : List (Term S)} {e : Failure} (failed : sum terms = .error e) :
    e = reportRefusal .refused := by
  unfold sum at failed
  rcases run : accumulate .neutral terms with refusal | total
  · rw [run] at failed
    cases failed
    rw [(accumulate_eq_error_iff.1 run).1]
  · rw [run] at failed
    cases failed

/-- A sum is refused exactly if one of its terms is, after a sum of the terms before it. -/
theorem sum_eq_error_iff {terms : List (Term S)} :
    sum terms = .error (reportRefusal .refused) ↔
      ∃ before t after reached, terms = before ++ t :: after ∧
        sum before = .ok reached ∧ Refuses reached t := by
  have failed_iff : sum terms = .error (reportRefusal .refused) ↔
      accumulate .neutral terms = .error .refused := by
    rw [sum]
    rcases run : accumulate .neutral terms with e | p
    · obtain ⟨rfl, -⟩ := accumulate_eq_error_iff.1 run
      exact iff_of_true rfl rfl
    · exact iff_of_false nofun nofun
  rw [failed_iff, accumulate_eq_error_iff]
  simp only [sum_eq_ok_iff, true_and]

/-! ## One sum, evaluated in two ways -/

/-- Skipping the terms that vanish changes neither the sum nor the failures. -/
theorem accumulatePublic_eq_accumulate (acc : Point S) (terms : List (Term S)) :
    accumulatePublic acc terms = accumulate acc terms := by
  induction terms generalizing acc with
  | nil => rfl
  | cons term rest ih =>
    obtain ⟨s, p⟩ := term
    rw [accumulatePublic]
    split
    · rename_i vanishing
      rw [accumulate_cons, step_of_vanishes acc vanishing, ih acc]
      rfl
    · simp only [ih]
      rfl

theorem sumPublic_eq_sum (terms : List (Term S)) : sumPublic terms = sum terms := by
  rw [sumPublic, sum, accumulatePublic_eq_accumulate]

end Multiscalar

/-- The verifiers of all kinds take the same sum. -/
theorem Proof.sumTerms_eq_sum (k : ProofKind) (terms : List (Multiscalar.Term S)) :
    Proof.sumTerms k terms = Multiscalar.sum terms := by
  cases k with
  | zeroCiphertext => rfl
  | commitmentEquality => exact Multiscalar.sumPublic_eq_sum terms
  | ciphertextEquality => exact Multiscalar.sumPublic_eq_sum terms

/-! ## Sums of points of the group -/

namespace Suite.Reading

variable (R : S.Reading E)

/-- The sum of the multiples that terms stand for. -/
noncomputable def total (terms : List (Multiscalar.Term S)) : E :=
  (terms.map fun term => term.1.value • R.read term.2).sum

@[simp] theorem total_nil : R.total [] = 0 := rfl

@[simp] theorem total_cons (term : Multiscalar.Term S) (rest : List (Multiscalar.Term S)) :
    R.total (term :: rest) = term.1.value • R.read term.2 + R.total rest := List.sum_cons

@[simp] theorem total_append (terms rest : List (Multiscalar.Term S)) :
    R.total (terms ++ rest) = R.total terms + R.total rest := by
  rw [total, List.map_append, List.sum_append, ← total, ← total]

/-- Adding an admissible multiple of a point of the group succeeds. -/
theorem step_point {s : Scalar} (admissible : s.Admissible) (e f : E) :
    Multiscalar.step (R.point e) (s, R.point f) = .ok (R.point (e + s.value • f)) := by
  rw [Multiscalar.step, R.mul_point admissible]
  exact R.add_point e _

/-- Admissible scalars and points of the group: each step succeeds and adds the term. -/
theorem accumulate_point {terms : List (Multiscalar.Term S)}
    (members : ∀ term ∈ terms, term.2 ∈ R.points)
    (admissible : ∀ term ∈ terms, term.1.Admissible) (e : E) :
    Multiscalar.accumulate (R.point e) terms = .ok (R.point (e + R.total terms)) := by
  induction terms generalizing e with
  | nil => rw [R.total_nil, add_zero]; rfl
  | cons term rest ih =>
    obtain ⟨s, p⟩ := term
    obtain ⟨f, rfl⟩ : p ∈ R.points := members _ List.mem_cons_self
    have later := ih (fun t listed => members t (List.mem_cons_of_mem _ listed))
      (fun t listed => admissible t (List.mem_cons_of_mem _ listed)) (e + s.value • f)
    rw [R.total_cons, R.read_point, ← add_assoc, ← later, Multiscalar.accumulate_cons,
      R.step_point (admissible _ List.mem_cons_self)]
    rfl

/-- A sum that is not refused is that of the group. -/
theorem eq_of_accumulate_point {terms : List (Multiscalar.Term S)}
    (members : ∀ term ∈ terms, term.2 ∈ R.points)
    (clear : ∀ term ∈ terms, term.1.TopBitClear) {e : E} {p : Point S}
    (given : Multiscalar.accumulate (R.point e) terms = .ok p) :
    p = R.point (e + R.total terms) := by
  induction terms generalizing e with
  | nil =>
    rw [R.total_nil, add_zero]
    exact (Except.ok.inj given).symm
  | cons term rest ih =>
    obtain ⟨s, q⟩ := term
    obtain ⟨f, rfl⟩ : q ∈ R.points := members _ List.mem_cons_self
    cases product : Point.mul s (R.point f) with
    | error refusal =>
      simp only [Multiscalar.accumulate, product, bind, Except.bind] at given
      cases given
    | ok r =>
      obtain rfl := R.eq_of_mul_point_eq_ok (clear _ List.mem_cons_self) product
      simp only [Multiscalar.accumulate, product, bind, Except.bind, R.add_point] at given
      rw [R.total_cons, R.read_point, ← add_assoc]
      exact ih (fun t listed => members t (List.mem_cons_of_mem _ listed))
        (fun t listed => clear t (List.mem_cons_of_mem _ listed)) given

/-- A sum with admissible scalars is never refused and is that of the group. -/
theorem sum_eq_ok {terms : List (Multiscalar.Term S)}
    (members : ∀ term ∈ terms, term.2 ∈ R.points)
    (admissible : ∀ term ∈ terms, term.1.Admissible) :
    Multiscalar.sum terms = .ok (R.point (R.total terms)) := by
  rw [Multiscalar.sum, ← R.point_zero, R.accumulate_point members admissible, zero_add]
  rfl

/-- A sum that is given is that of the group. -/
theorem eq_of_sum_eq_ok {terms : List (Multiscalar.Term S)}
    (members : ∀ term ∈ terms, term.2 ∈ R.points)
    (clear : ∀ term ∈ terms, term.1.TopBitClear) {p : Point S}
    (given : Multiscalar.sum terms = .ok p) : p = R.point (R.total terms) := by
  rw [Multiscalar.sum_eq_ok_iff, ← R.point_zero] at given
  rw [R.eq_of_accumulate_point members clear given, zero_add]

end Suite.Reading

end AmountProofs
