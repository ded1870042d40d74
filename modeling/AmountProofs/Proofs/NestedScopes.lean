import AmountProofs.Failure

/-!
Errors in nested scopes.

A reader of bundles opens a scope around readers that open scopes themselves, so an error may pass
the borders of several. `nested` runs a computation inside any number of scopes. One border changes
the class of an error and nothing else (`LibraryError.rewrap_eq`), so what leaves the outermost scope
has the code, the details and the reason that were raised inside, and its message is built from
that reason once (`nested_outcome`). Its class is that of the outermost scope that is not the general
one; if all scopes are general it is the error's own.
-/

namespace AmountProofs

/-! ## One border -/

namespace ErrorKind

/-- The family that errors of a kind are rejections of, if they are rejections; the general one for
all others. -/
def family : ErrorKind → ProofFamily
  | rejection f => f
  | _ => .general

/-- The kind of an error behind the border of a scope: an error of the scope's family keeps its own
class, where all rejections are of the general family, and any other takes that of the scope. -/
def behind (kind : ErrorKind) (f : ProofFamily) : ErrorKind :=
  match kind with
  | rejection g => if f = .general ∨ f = g then rejection g else rejection f
  | _ => rejection f

/-- The errors that the parts below the verifiers raise. -/
def IsLowLevel (kind : ErrorKind) : Prop :=
  kind = transcript ∨ kind = deserialization ∨ kind = multiscalarMul

theorem behind_eq (kind : ErrorKind) (f : ProofFamily) :
    kind.behind f = rejection (if f = .general then kind.family else f) := by
  cases kind with
  | rejection g => cases f <;> cases g <;> rfl
  | unspecific | transcript | deserialization | multiscalarMul | settings => cases f <;> rfl

theorem isRewrapped_iff {kind : ErrorKind} :
    kind.isRewrapped = true ↔ kind.IsLowLevel ∨ ∃ f, kind = rejection f := by
  unfold IsLowLevel
  cases kind <;> simp [isRewrapped]

end ErrorKind

/-- A border changes the class of an error and leaves all the rest as it is. -/
theorem LibraryError.rewrap_eq {e : LibraryError} (rewrapped : e.kind.isRewrapped = true)
    (f : ProofFamily) : e.rewrap f = { e with kind := e.kind.behind f } := by
  rcases e with ⟨kind, code, reason, details⟩
  cases kind with
  | rejection g => cases f <;> cases g <;> rfl
  | transcript | deserialization | multiscalarMul => rfl
  | unspecific | settings => cases rewrapped

/-! ## All borders -/

/-- Runs a computation inside scopes, of which the first is the innermost. -/
def nested {α : Type} (levels : List ProofFamily) (x : Except Failure α) : Except Failure α :=
  levels.foldl (fun inner f => within f inner) x

variable {α : Type} {levels : List ProofFamily}

/-- The kind that scopes leave a rejection with: the last of them that is not general decides. -/
theorem ErrorKind.foldl_behind_rejection (levels : List ProofFamily) (g : ProofFamily) :
    levels.foldl behind (rejection g) =
      rejection ((levels.filter (· ≠ .general)).getLast?.getD g) := by
  induction levels generalizing g with
  | nil => rfl
  | cons f rest ih =>
    rw [List.foldl_cons, behind_eq, ih]
    by_cases general : f = .general
    · rw [if_pos general, List.filter_cons_of_neg (by simpa using general)]
      rfl
    · rw [if_neg general, List.filter_cons_of_pos (by simpa using general), List.getLast?_cons]
      rfl

/-- The family that an error of a kind is a rejection of behind all scopes. -/
def ErrorKind.familyBehind (levels : List ProofFamily) (kind : ErrorKind) : ProofFamily :=
  (levels.filter (· ≠ .general)).getLast?.getD kind.family

theorem ErrorKind.foldl_behind (nonempty : levels ≠ []) (kind : ErrorKind) :
    levels.foldl behind kind = rejection (familyBehind levels kind) := by
  cases levels with
  | nil => exact absurd rfl nonempty
  | cons f rest =>
    -- The first border makes a rejection of any error, of the family that the kind stands for.
    have first : kind.behind f = (rejection kind.family).behind f := by
      rw [behind_eq, behind_eq]
      rfl
    rw [List.foldl_cons, first, ← List.foldl_cons, foldl_behind_rejection]
    rfl

/-- An error that is rewrapped at all leaves the scopes with no more changed than its class. -/
theorem nested_of_isRewrapped {e : LibraryError} (rewrapped : e.kind.isRewrapped = true) :
    nested levels (.error (.library e) : Except Failure α) =
      .error (.library { e with kind := levels.foldl ErrorKind.behind e.kind }) := by
  induction levels generalizing e with
  | nil => rfl
  | cons f rest ih =>
    have again : (e.kind.behind f).isRewrapped = true := by
      rw [ErrorKind.behind_eq]
      rfl
    have border : within f (.error (.library e) : Except Failure α) =
        .error (.library { e with kind := e.kind.behind f }) := by
      rw [← LibraryError.rewrap_eq rewrapped f]
      rfl
    have run := ih (e := { e with kind := e.kind.behind f }) again
    unfold nested at run ⊢
    rw [List.foldl_cons, List.foldl_cons, border, run]

/-- What no border changes leaves the scopes as it is. -/
theorem nested_of_rewrap_eq {failure : Failure} (kept : ∀ f, failure.rewrap f = failure) :
    nested levels (.error failure : Except Failure α) = .error failure := by
  induction levels with
  | nil => rfl
  | cons f rest ih =>
    have border : within f (.error failure : Except Failure α) = .error failure :=
      congrArg Except.error (kept f)
    unfold nested at ih ⊢
    rw [List.foldl_cons, border, ih]

/-- A result passes all borders. -/
theorem nested_ok (a : α) : nested levels (.ok a) = .ok a := by
  induction levels with
  | nil => rfl
  | cons f rest ih => exact ih

/-- A low-level error or a rejection leaves any scopes, however many and in whatever order, with its
code, its details and its reason, which for a low-level error is its message. Its class is kept by
each scope that it is a rejection of and replaced by every other, so that the outermost scope that is
not general decides, and its message names that class and gives the reason. An error in the settings,
an error of no special kind and a failure that is none of the library's pass unchanged, and so does
a result. -/
theorem nested_outcome (nonempty : levels ≠ []) (failure : Failure) :
    (∀ e, failure = .library e → (e.kind.IsLowLevel ∨ ∃ f, e.kind = .rejection f) →
      ∃ out, nested levels (.error failure : Except Failure α) = .error (.library out) ∧
        out.code = e.code ∧ out.details = e.details ∧ out.reason = e.reason ∧
        (e.kind.IsLowLevel → out.reason = e.text) ∧
        out.kind = levels.foldl ErrorKind.behind e.kind ∧
        out.kind = .rejection (ErrorKind.familyBehind levels e.kind) ∧
        out.text = (ErrorKind.familyBehind levels e.kind).title ++ " verification failed: " ++
          e.reason) ∧
    ((∀ e, failure = .library e → e.kind = .settings ∨ e.kind = .unspecific) →
      nested levels (.error failure : Except Failure α) = .error failure) ∧
    ∀ a : α, nested levels (.ok a) = .ok a := by
  refine ⟨fun e raised kinds => ?_, fun others => ?_, fun a => ?_⟩
  · subst raised
    have settled := ErrorKind.foldl_behind nonempty e.kind
    refine ⟨_, nested_of_isRewrapped (ErrorKind.isRewrapped_iff.2 kinds), rfl, rfl, rfl,
      fun lowLevel => ?_, rfl, settled, ?_⟩
    · unfold LibraryError.text
      rcases lowLevel with kind | kind | kind <;> rw [kind]
    · unfold LibraryError.text
      rw [settled]
  · apply nested_of_rewrap_eq
    intro f
    cases failure with
    | library e =>
      rcases e with ⟨kind, code, reason, details⟩
      rcases others _ rfl with same | same <;> cases same <;> rfl
    | _ => rfl
  · exact nested_ok a

/-- A malformed point in three scopes: the outermost one names it, once, though the innermost was of
another family. An error in the settings passes the same scopes. -/
theorem nested_outcome_of_three :
    let levels : List ProofFamily := [.zeroCiphertext, .general, .equality]
    (∃ out, nested levels (.error (.malformed "invalid point encoding" .null) :
        Except Failure Unit) = .error (.library out) ∧
      out.kind = .rejection .equality ∧ out.code = .deserialization ∧
      out.text = "equality proof verification failed: invalid point encoding") ∧
    nested levels (.error (.settings "" .null) : Except Failure Unit) =
      .error (.settings "" .null) := by
  intro levels
  have nonempty : levels ≠ [] := by decide
  constructor
  · rcases (nested_outcome (α := Unit) nonempty (.malformed "invalid point encoding" .null)).1 _ rfl
      (.inl (.inr (.inl rfl))) with ⟨out, run, code, -, -, -, -, kind, text⟩
    exact ⟨out, run, kind, code, text⟩
  · apply (nested_outcome nonempty (.settings "" .null)).2.1
    intro e same
    cases same
    exact .inl rfl

end AmountProofs
