import AmountProofs.Proofs.AttemptRuns
import AmountProofs.Transcript
import Mathlib.Data.List.FinRange

/-!
What a transcript has absorbed, as a history of events.

An event is one of the two things that a transcript does: it absorbs a message under a label, or it
gives out bytes under a label and absorbs them. `Transcript.after` is the transcript after an event
and `Transcript.replay` the one after a history; `Transcript.squeezed` are the bytes that a challenge
gives. Every operation on byte strings that are short enough runs as its event.
-/

namespace AmountProofs

variable {S : Suite}

namespace Transcript

/-- What happens to a transcript. -/
inductive Event
  | append (label message : Bytes)
  | challenge (label : Bytes) (size : Nat)
  deriving DecidableEq, Repr

/-- The record that an event absorbs first. -/
def Event.record : Event → Record
  | append label message => ⟨.append, label, message⟩
  | challenge label size => ⟨.challenge, label, Bytes.ofNat 8 size⟩

/-- The bytes that are absorbed when a challenge is drawn. -/
def stream (t : Transcript S) (label : Bytes) (size : Nat) : Bytes :=
  t.absorbed ++ (Event.challenge label size).record.encode

/-- The bytes that a challenge gives. -/
def squeezed (t : Transcript S) (label : Bytes) (size : Nat) : Vector UInt8 size :=
  S.xof (t.stream label size) size

/-- The transcript after an event. -/
def after (t : Transcript S) : Event → Transcript S
  | .append label message => ⟨t.absorbed ++ (Event.append label message).record.encode⟩
  | .challenge label size => ⟨t.stream label size ++ (t.squeezed label size).toList⟩

/-- The bytes that an event absorbs behind its record: those that it gives out. -/
def output (t : Transcript S) : Event → Bytes
  | .append _ _ => []
  | .challenge label size => (t.squeezed label size).toList

theorem absorbed_after (t : Transcript S) (event : Event) :
    (t.after event).absorbed = t.absorbed ++ (event.record.encode ++ t.output event) := by
  cases event with
  | append label message => exact congrArg (t.absorbed ++ ·) (List.append_nil _).symm
  | challenge label size => exact List.append_assoc _ _ _

/-- The transcript after a history. -/
def replay (t : Transcript S) (history : List Event) : Transcript S := history.foldl after t

@[simp] theorem replay_nil (t : Transcript S) : t.replay [] = t := rfl

@[simp] theorem replay_cons (t : Transcript S) (event : Event) (history : List Event) :
    t.replay (event :: history) = (t.after event).replay history := rfl

@[simp] theorem replay_append (t : Transcript S) (first second : List Event) :
    t.replay (first ++ second) = (t.replay first).replay second := List.foldl_append

theorem replay_ofFn (t : Transcript S) {n : Nat} (events : Fin n → Event) :
    t.replay (List.ofFn events) = (List.finRange n).foldl (fun t i => t.after (events i)) t := by
  rw [replay, List.ofFn_eq_map, List.foldl_map]

/-! ## Operations run as their events -/

/-- Byte strings with a label that is short enough are a record. -/
theorem record_eq_ok {label message : Payload} {l m : Bytes} (labelOwned : label.owned? = some l)
    (messageOwned : message.owned? = some m) (short : l.length ≤ maxLabelSize)
    (operation : Operation) : record operation label message = .ok ⟨operation, l, m⟩ := by
  unfold record ownedBytes
  simp only [labelOwned, messageOwned, bind, Except.bind, if_neg (Nat.not_lt.2 short)]
  rfl

@[simp] theorem on_update (b : Bytes) (t : Transcript S) :
    (update b).on t = (.ok (), ⟨t.absorbed ++ b⟩) := Attempt.on_modify _ t

/-- The parts of a record are absorbed one after the other, once all checks have passed. -/
theorem on_absorb {label message : Payload} {l m : Bytes} (labelOwned : label.owned? = some l)
    (messageOwned : message.owned? = some m) (short : l.length ≤ maxLabelSize)
    (operation : Operation) (t : Transcript S) :
    (absorb operation label message).on t =
      (.ok (), ⟨t.absorbed ++ Record.encode ⟨operation, l, m⟩⟩) := by
  rw [absorb, record_eq_ok labelOwned messageOwned short,
    Attempt.on_bind_of_ok (Attempt.on_ofExcept _ _), Attempt.on_bind_of_ok (on_update _ _),
    Attempt.on_bind_of_ok (on_update _ _), Attempt.on_bind_of_ok (on_update _ _),
    Attempt.on_bind_of_ok (on_update _ _), on_update]
  simp only [Record.encode, List.append_assoc, List.cons_append, List.nil_append]

theorem on_appendMessage {label message : Payload} {l m : Bytes} (labelOwned : label.owned? = some l)
    (messageOwned : message.owned? = some m) (short : l.length ≤ maxLabelSize)
    (t : Transcript S) :
    (appendMessage label message).on t = (.ok (), t.after (.append l m)) :=
  on_absorb labelOwned messageOwned short .append t

/-- Drawing gives the bytes that the event says. -/
theorem on_draw {label : Payload} {l : Bytes} (labelOwned : label.owned? = some l)
    (short : l.length ≤ maxLabelSize) (size : Nat) (t : Transcript S) :
    (draw label size).on t = (.ok (t.squeezed l size), t.after (.challenge l size)) := by
  rw [draw, Attempt.on_bind_of_ok (on_absorb labelOwned rfl short .challenge t),
    Attempt.on_bind_of_ok (Attempt.on_get _), Attempt.on_bind_of_ok (on_update _ _)]
  rfl

theorem on_challengeScalar {label : Payload} {l : Bytes} (labelOwned : label.owned? = some l)
    (short : l.length ≤ maxLabelSize) (t : Transcript S) :
    (challengeScalar label).on t =
      (.ok (Scalar.ofWide (t.squeezed l 64)), t.after (.challenge l 64)) := by
  rw [challengeScalar, Attempt.on_bind_of_ok (on_draw labelOwned short 64 t), Attempt.on_pure]

/-- A point that is read is absorbed as its bytes were copied. -/
theorem on_appendValidPoint_of_copied {label point : Payload} {l b : Bytes} {p : Point S}
    (labelOwned : label.owned? = some l) (copied : point.toBytes = .ok b)
    (short : l.length ≤ maxLabelSize) (found : Point.ofPayload point = .ok p) (t : Transcript S) :
    (appendValidPoint label point).on t = (.ok p, t.after (.append l b)) := by
  rw [appendValidPoint, Attempt.on_bind_of_ok (t := t) (a := p) (by rw [Attempt.on_ofExcept, found]),
    Attempt.on_bind_of_ok (t := t) (a := b) (by rw [Attempt.on_ofExcept, copied]),
    Attempt.on_bind_of_ok (on_appendMessage labelOwned rfl short t), Attempt.on_pure]

/-- A point that is read is absorbed as it was given. -/
theorem on_appendValidPoint {label point : Payload} {l b : Bytes} {p : Point S}
    (labelOwned : label.owned? = some l) (pointOwned : point.owned? = some b)
    (short : l.length ≤ maxLabelSize) (found : Point.ofPayload point = .ok p) (t : Transcript S) :
    (appendValidPoint label point).on t = (.ok p, t.after (.append l b)) := by
  have copied : point.toBytes = .ok b := by
    cases point <;> cases pointOwned <;> rfl
  exact on_appendValidPoint_of_copied labelOwned copied short found t

/-- A point that is not read leaves the transcript as it was. -/
theorem on_appendValidPoint_of_error {label point : Payload} {e : Failure}
    (missing : (Point.ofPayload point : Except Failure (Point S)) = .error e)
    (t : Transcript S) : (appendValidPoint label point).on t = (.error e, t) := by
  rw [appendValidPoint]
  exact Attempt.on_bind_of_error (by rw [Attempt.on_ofExcept, missing]) _

/-- The name of a domain is absorbed under the label for domains. -/
theorem on_separateDomain {name : Payload} {m : Bytes} (owned : name.owned? = some m)
    (t : Transcript S) :
    (separateDomain name).on t = (.ok (), t.after (.append domainLabel m)) :=
  on_appendMessage rfl owned (by decide) t

/-- A new transcript has absorbed its label as a domain. -/
theorem create_eq_ok {label : Payload} {l : Bytes} (labelOwned : label.owned? = some l) :
    (create label : Except Failure (Transcript S)) =
      .ok (start.after (.append domainLabel l)) := by
  rw [create, on_separateDomain labelOwned start]

end Transcript

end AmountProofs
