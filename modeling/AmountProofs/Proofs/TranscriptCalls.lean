import AmountProofs.Proofs.TranscriptReplay
import AmountProofs.Proofs.WrittenPoints
import Mathlib.Algebra.Group.Int.Defs
import Mathlib.Algebra.Group.Nat.Defs

/-!
The operations that a transcript offers, as calls.

A caller may pass anything. Whether a call is accepted (`Call.Accepted`) and which event it asks for
(`Call.event?`) are told from its arguments alone. A call that is accepted absorbs the record of its
event and what it hands out, part by part; a call that is refused has left the transcript as it was,
whichever check it failed (`Call.run_outcome`). So a transcript has a history of events, whatever
was called in whatever order (`exists_replay_eq`).
-/

namespace AmountProofs

variable {S : Suite}

namespace Transcript

/-! ## Events that a transcript can have -/

/-- The label is no longer than a label may be, the length of a message fits its eight bytes, and a
challenge has a size that may be asked for. -/
def Event.Fits : Event → Prop
  | .append label message => label.length ≤ maxLabelSize ∧ message.length < 2 ^ 64
  | .challenge label size => label.length ≤ maxLabelSize ∧ 0 < size ∧ size ≤ maxChallengeSize

instance : DecidablePred Event.Fits
  | .append _ _ => inferInstanceAs (Decidable (_ ∧ _))
  | .challenge _ _ => inferInstanceAs (Decidable (_ ∧ _ ∧ _))

/-! ## Calls -/

/-- A call of one of the operations that a transcript offers. Separating the domain of a kind of
proof is separating a domain by its name. -/
inductive Call
  | appendMessage (label message : Payload)
  | appendNumber (label : Payload) (value : Int)
  | separateDomain (name : Payload)
  | appendPoint (label point : Payload)
  | appendScalar (label : Payload) (s : Scalar)
  | appendValidPoint (label point : Payload)
  | challengeBytes (label : Payload) (size : Json)
  | challengeScalar (label : Payload)

/-- What a call gives its caller. -/
inductive Answer (S : Suite)
  | nothing
  | point (p : Point S)
  | bytes (b : Bytes)
  | scalar (s : Scalar)

/-- The bytes that an answer hands out: those of a challenge, as they are or as the scalar that they
are congruent to. No other answer hands out any. -/
def Answer.HandsOut : Answer S → Bytes → Prop
  | nothing, output => output = []
  | point _, output => output = []
  | bytes b, output => output = b
  | scalar s, output => ∃ b : Vector UInt8 64, output = b.toList ∧ s = Scalar.ofWide b

/-- A byte string that may be a label. -/
def IsLabel (p : Payload) : Prop := ∃ l, p.owned? = some l ∧ l.length ≤ maxLabelSize

/-- A byte string that may be a message. -/
def IsMessage (p : Payload) : Prop := ∃ m, p.owned? = some m

namespace Call

/-- Runs a call. -/
def run : Call → Attempt (Transcript S) (Answer S)
  | appendMessage label message => do
    Transcript.appendMessage label message
    return .nothing
  | appendNumber label value => do
    Transcript.appendNumber label value
    return .nothing
  | separateDomain name => do
    Transcript.separateDomain name
    return .nothing
  | appendPoint label point => do
    Transcript.appendPoint label point
    return .nothing
  | appendScalar label s => do
    Transcript.appendScalar label s
    return .nothing
  | appendValidPoint label point => return .point (← Transcript.appendValidPoint label point)
  | challengeBytes label size => return .bytes (← Transcript.challengeBytes label size)
  | challengeScalar label => return .scalar (← Transcript.challengeScalar label)

/-- Runs a call and drops its result. -/
def perform : Call → Attempt (Transcript S) Unit
  | appendMessage label message => Transcript.appendMessage label message
  | appendNumber label value => Transcript.appendNumber label value
  | separateDomain name => Transcript.separateDomain name
  | appendPoint label point => Transcript.appendPoint label point
  | appendScalar label s => Transcript.appendScalar label s
  | appendValidPoint label point => do let _ ← Transcript.appendValidPoint label point
  | challengeBytes label size => do let _ ← Transcript.challengeBytes label size
  | challengeScalar label => do let _ ← Transcript.challengeScalar label

/-- The event that a call asks for; none if its arguments are no byte strings, or no size of a
challenge. -/
def event? : Call → Option Event
  | appendMessage label message => return .append (← label.owned?) (← message.owned?)
  | appendNumber label value => return .append (← label.owned?) (Bytes.ofNat 8 value.toNat)
  | separateDomain name => return .append domainLabel (← name.owned?)
  | appendPoint label point => return .append (← label.owned?) (← point.owned?)
  | appendScalar label s => return .append (← label.owned?) s.toBytes
  | appendValidPoint label point => return .append (← label.owned?) (← point.toBytes.toOption)
  | challengeBytes label size => return .challenge (← label.owned?) (← requestedSize? size)
  | challengeScalar label => return .challenge (← label.owned?) 64

/-- The length of a message that a call passes on as it is fits eight bytes. -/
def Sized : Call → Prop
  | appendMessage _ message => ∀ m, message.owned? = some m → m.length < 2 ^ 64
  | separateDomain name => ∀ m, name.owned? = some m → m.length < 2 ^ 64
  | appendPoint _ point => ∀ m, point.owned? = some m → m.length < 2 ^ 64
  | _ => True

/-- The arguments of a call are what its operation asks for. -/
def Accepted (S : Suite) : Call → Prop
  | appendMessage label message => IsLabel label ∧ IsMessage message
  | appendNumber label value => IsLabel label ∧ 0 ≤ value ∧ value < 2 ^ 64
  | separateDomain name => IsMessage name
  | appendPoint label point => IsLabel label ∧ IsMessage point
  | appendScalar label _ => IsLabel label
  | appendValidPoint label point => IsLabel label ∧ ∃ p : Point S, Point.ofPayload point = .ok p
  | challengeBytes label size => IsLabel label ∧ ∃ n, requestedSize? size = some n
  | challengeScalar label => IsLabel label

end Call

/-! ## Arguments that are in order -/

theorem on_appendNumber {label : Payload} {l : Bytes} (labelOwned : label.owned? = some l)
    (short : l.length ≤ maxLabelSize) {value : Int} (low : 0 ≤ value) (high : value < 2 ^ 64)
    (t : Transcript S) :
    (appendNumber label value).on t = (.ok (), t.after (.append l (Bytes.ofNat 8 value.toNat))) := by
  rw [appendNumber, if_pos ⟨low, high⟩]
  exact on_appendMessage labelOwned rfl short t

theorem on_challengeBytes {label : Payload} {l : Bytes} (labelOwned : label.owned? = some l)
    (short : l.length ≤ maxLabelSize) {length : Json} {n : Nat}
    (asked : requestedSize? length = some n) (t : Transcript S) :
    (challengeBytes label length).on t =
      (.ok (t.squeezed l n).toList, t.after (.challenge l n)) := by
  simp only [challengeBytes, asked]
  exact Attempt.on_bind_of_ok (on_draw labelOwned short n t) _

/-- What is read as a point has thirty-two bytes, which can be copied. -/
theorem exists_toBytes_of_ofPayload {point : Payload} {p : Point S}
    (found : Point.ofPayload point = .ok p) : ∃ b, point.toBytes = .ok b ∧ b.length = 32 := by
  obtain ⟨size, b, copied, -⟩ := Point.ofPayload_eq_ok_iff.1 found
  refine ⟨b, copied, ?_⟩
  cases point with
  | bytes c | buffer c | view c =>
    cases copied
    exact Except.ok.inj size
  | list items => exact (Payload.length_of_itemBytes copied).trans (Except.ok.inj size)
  | text _ | number _ | absent => cases copied

/-- A size that may be asked for is one that a challenge can have. -/
theorem le_of_requestedSize? {length : Json} {n : Nat} (asked : requestedSize? length = some n) :
    0 < n ∧ n ≤ maxChallengeSize := by
  unfold requestedSize? at asked
  cases count : length.asInt? with
  | none =>
    rw [count] at asked
    cases asked
  | some i =>
    rw [count] at asked
    change (if 0 < i ∧ i ≤ maxChallengeSize then some i.toNat else none) = some n at asked
    split at asked
    · rename_i bounds
      cases asked
      omega
    · cases asked

/-! ## Arguments that are not -/

/-- Arguments that are no byte strings, or a label that is too long, give no record, and nothing is
absorbed. -/
theorem on_absorb_of_refused {label message : Payload}
    (refused : ¬(IsLabel label ∧ IsMessage message)) (operation : Operation) (t : Transcript S) :
    ∃ e, (absorb operation label message).on t = (.error e, t) := by
  have failed : ∃ e, record operation label message = .error e := by
    unfold record ownedBytes
    cases labelOwned : label.owned? with
    | none => exact ⟨_, rfl⟩
    | some l =>
      cases messageOwned : message.owned? with
      | none => exact ⟨_, rfl⟩
      | some m =>
        have long : maxLabelSize < l.length :=
          Nat.lt_of_not_le fun short => refused ⟨⟨l, labelOwned, short⟩, m, messageOwned⟩
        simp only [bind, Except.bind, if_pos long]
        exact ⟨_, rfl⟩
  obtain ⟨e, failed⟩ := failed
  exact ⟨e, Attempt.on_bind_of_error (by rw [Attempt.on_ofExcept, failed]) _⟩

theorem on_draw_of_refused {label : Payload} (refused : ¬IsLabel label) (size : Nat)
    (t : Transcript S) : ∃ e, (draw label size).on t = (.error e, t) := by
  have failed : ∃ e, (absorb .challenge label (.bytes (Bytes.ofNat 8 size))).on t = (.error e, t) :=
    on_absorb_of_refused (fun given => refused given.1) .challenge t
  obtain ⟨e, failed⟩ := failed
  exact ⟨e, Attempt.on_bind_of_error failed _⟩

theorem on_appendNumber_of_refused {label : Payload} {value : Int}
    (refused : ¬(IsLabel label ∧ 0 ≤ value ∧ value < 2 ^ 64)) (t : Transcript S) :
    ∃ e, (appendNumber label value).on t = (.error e, t) := by
  unfold appendNumber
  split
  · rename_i inRange
    exact on_absorb_of_refused (fun given => refused ⟨given.1, inRange⟩) .append t
  · exact ⟨_, Attempt.on_throw _ _⟩

/-- A point is read first and copied then; the label is looked at last. -/
theorem on_appendValidPoint_of_refused {label point : Payload}
    (refused : ¬(IsLabel label ∧ ∃ p : Point S, Point.ofPayload point = .ok p))
    (t : Transcript S) : ∃ e, (appendValidPoint label point).on t = (.error e, t) := by
  rcases found : (Point.ofPayload point : Except Failure (Point S)) with e | p
  · exact ⟨e, on_appendValidPoint_of_error found t⟩
  · obtain ⟨b, copied, -⟩ := exists_toBytes_of_ofPayload found
    have failed : ∃ e, (appendMessage label (.bytes b)).on t = (.error e, t) :=
      on_absorb_of_refused (fun given => refused ⟨given.1, p, found⟩) .append t
    obtain ⟨e, failed⟩ := failed
    refine ⟨e, ?_⟩
    rw [appendValidPoint,
      Attempt.on_bind_of_ok (t := t) (a := p) (by rw [Attempt.on_ofExcept, found]),
      Attempt.on_bind_of_ok (t := t) (a := b) (by rw [Attempt.on_ofExcept, copied])]
    exact Attempt.on_bind_of_error failed _

theorem on_challengeBytes_of_refused {label : Payload} {length : Json}
    (refused : ¬(IsLabel label ∧ ∃ n, requestedSize? length = some n)) (t : Transcript S) :
    ∃ e, (challengeBytes label length).on t = (.error e, t) := by
  unfold challengeBytes
  rcases asked : requestedSize? length with _ | n
  · exact ⟨_, Attempt.on_throw _ _⟩
  · obtain ⟨e, failed⟩ := on_draw_of_refused (S := S) (fun given => refused ⟨given, n, asked⟩) n t
    exact ⟨e, Attempt.on_bind_of_error failed _⟩

/-- A message is absorbed completely or not at all. -/
theorem on_appendMessage_cases (label message : Payload) (t : Transcript S) :
    (∃ l m, label.owned? = some l ∧ message.owned? = some m ∧ l.length ≤ maxLabelSize ∧
      (appendMessage label message).on t = (.ok (), t.after (.append l m))) ∨
    ∃ e, (appendMessage label message).on t = (.error e, t) := by
  by_cases given : IsLabel label ∧ IsMessage message
  · obtain ⟨⟨l, labelOwned, short⟩, m, messageOwned⟩ := given
    exact .inl ⟨l, m, labelOwned, messageOwned, short,
      on_appendMessage labelOwned messageOwned short t⟩
  · exact .inr (on_absorb_of_refused given .append t)

/-! ## Calls absorb their events -/

namespace Call

variable {call : Call}

/-- A call that is accepted runs as its event and hands out what the event does. -/
theorem on_run_of_accepted (accepted : call.Accepted S) (t : Transcript S) :
    ∃ event answer, call.event? = some event ∧ event.record.label.length ≤ maxLabelSize ∧
      (call.Sized → event.Fits) ∧ call.run.on t = (.ok answer, t.after event) ∧
      answer.HandsOut (t.output event) := by
  have small : ∀ n ≤ 32, n < 2 ^ 64 := fun n bound => bound.trans_lt (by decide)
  cases call with
  | appendMessage label message =>
    obtain ⟨⟨l, labelOwned, short⟩, m, messageOwned⟩ := accepted
    refine ⟨.append l m, .nothing, by simp [event?, labelOwned, messageOwned], short,
      fun sized => ⟨short, sized m messageOwned⟩, ?_, rfl⟩
    exact Attempt.on_bind_of_ok (on_appendMessage labelOwned messageOwned short t) _
  | appendNumber label value =>
    obtain ⟨⟨l, labelOwned, short⟩, low, high⟩ := accepted
    refine ⟨.append l (Bytes.ofNat 8 value.toNat), .nothing, by simp [event?, labelOwned], short,
      fun _ => ⟨short, small _ (by rw [Bytes.length_ofNat]; decide)⟩, ?_, rfl⟩
    exact Attempt.on_bind_of_ok (on_appendNumber labelOwned short low high t) _
  | separateDomain name =>
    obtain ⟨m, owned⟩ := accepted
    have short : domainLabel.length ≤ maxLabelSize := by decide
    refine ⟨.append domainLabel m, .nothing, by simp [event?, owned], short,
      fun sized => ⟨short, sized m owned⟩, ?_, rfl⟩
    exact Attempt.on_bind_of_ok (on_separateDomain owned t) _
  | appendPoint label point =>
    obtain ⟨⟨l, labelOwned, short⟩, m, pointOwned⟩ := accepted
    refine ⟨.append l m, .nothing, by simp [event?, labelOwned, pointOwned], short,
      fun sized => ⟨short, sized m pointOwned⟩, ?_, rfl⟩
    exact Attempt.on_bind_of_ok (on_appendMessage labelOwned pointOwned short t) _
  | appendScalar label s =>
    obtain ⟨l, labelOwned, short⟩ := accepted
    refine ⟨.append l s.toBytes, .nothing, by simp [event?, labelOwned], short,
      fun _ => ⟨short, small _ (Word.length_toBytes s.word).le⟩, ?_, rfl⟩
    exact Attempt.on_bind_of_ok (on_appendMessage labelOwned rfl short t) _
  | appendValidPoint label point =>
    obtain ⟨⟨l, labelOwned, short⟩, p, found⟩ := accepted
    obtain ⟨b, copied, sized⟩ := exists_toBytes_of_ofPayload found
    refine ⟨.append l b, .point p, by simp [event?, labelOwned, copied, Except.toOption], short,
      fun _ => ⟨short, small _ sized.le⟩, ?_, rfl⟩
    exact Attempt.on_bind_of_ok (on_appendValidPoint_of_copied labelOwned copied short found t) _
  | challengeBytes label size =>
    obtain ⟨⟨l, labelOwned, short⟩, n, asked⟩ := accepted
    refine ⟨.challenge l n, .bytes (t.squeezed l n).toList, by simp [event?, labelOwned, asked],
      short, fun _ => ⟨short, le_of_requestedSize? asked⟩, ?_, rfl⟩
    exact Attempt.on_bind_of_ok (on_challengeBytes labelOwned short asked t) _
  | challengeScalar label =>
    obtain ⟨l, labelOwned, short⟩ := accepted
    refine ⟨.challenge l 64, .scalar (Scalar.ofWide (t.squeezed l 64)),
      by simp [event?, labelOwned], short, fun _ => ⟨short, by decide⟩, ?_, _, rfl, rfl⟩
    exact Attempt.on_bind_of_ok (on_challengeScalar labelOwned short t) _

/-- A call that is refused has absorbed nothing, whichever check it failed. -/
theorem on_run_of_refused (refused : ¬call.Accepted S) (t : Transcript S) :
    ∃ e, call.run.on t = (.error e, t) := by
  -- The operation fails before its answer is made.
  have stops {α : Type} {x : Attempt (Transcript S) α} (f : α → Attempt (Transcript S) (Answer S)) :
      (∃ e, x.on t = (.error e, t)) → ∃ e, (x >>= f).on t = (.error e, t) :=
    fun ⟨e, failed⟩ => ⟨e, Attempt.on_bind_of_error failed f⟩
  cases call with
  | appendMessage label message => exact stops _ (on_absorb_of_refused refused .append t)
  | appendNumber label value => exact stops _ (on_appendNumber_of_refused refused t)
  | separateDomain name =>
    have failed : ∃ e, (Transcript.separateDomain name).on t = (.error e, t) :=
      on_absorb_of_refused (fun given => refused given.2) .append t
    exact stops _ failed
  | appendPoint label point => exact stops _ (on_absorb_of_refused refused .append t)
  | appendScalar label s =>
    have failed : ∃ e, (Transcript.appendScalar label s).on t = (.error e, t) :=
      on_absorb_of_refused (fun given => refused given.1) .append t
    exact stops _ failed
  | appendValidPoint label point => exact stops _ (on_appendValidPoint_of_refused refused t)
  | challengeBytes label size => exact stops _ (on_challengeBytes_of_refused refused t)
  | challengeScalar label =>
    obtain ⟨e, failed⟩ := on_draw_of_refused refused 64 t
    exact stops _ ⟨e, Attempt.on_bind_of_error failed _⟩

/-- All or nothing: a call that fails has been refused and has left the transcript as it was; a call
that returns has been accepted and has absorbed one record, tag, length of the label, label, length
of the message and message, followed by exactly the bytes that it hands out. -/
theorem run_outcome (call : Call) (t : Transcript S) :
    match call.run.on t with
    | (.error _, t') => ¬call.Accepted S ∧ t' = t
    | (.ok answer, t') => call.Accepted S ∧ ∃ event, call.event? = some event ∧
        event.record.label.length < 2 ^ 32 ∧
        t'.absorbed = t.absorbed ++ ([event.record.operation.tag] ++
          Bytes.ofNat 4 event.record.label.length ++ event.record.label ++
          Bytes.ofNat 8 event.record.message.length ++ event.record.message ++ t.output event) ∧
        answer.HandsOut (t.output event) := by
  by_cases accepted : call.Accepted S
  · obtain ⟨event, answer, asked, short, -, run, handed⟩ := on_run_of_accepted accepted t
    rw [run]
    refine ⟨accepted, event, asked, short.trans_lt (by decide), ?_, handed⟩
    rw [absorbed_after, Record.encode]
    simp only [List.append_assoc, List.cons_append, List.nil_append]
  · obtain ⟨e, failed⟩ := on_run_of_refused accepted t
    rw [failed]
    exact ⟨accepted, rfl⟩

theorem perform_eq (call : Call) :
    (call.perform : Attempt (Transcript S) Unit) = call.run >>= fun _ => pure () := by
  cases call <;> simp [perform, run]

/-- A call that returns has absorbed the event that it asks for; a call that fails has left the
transcript as it was. -/
theorem on_perform (call : Call) (t : Transcript S) :
    (∃ event, call.event? = some event ∧ (call.Sized → event.Fits) ∧
      call.perform.on t = (.ok (), t.after event)) ∨
    ∃ e, call.perform.on t = (.error e, t) := by
  rw [perform_eq]
  by_cases accepted : call.Accepted S
  · obtain ⟨event, answer, asked, -, fits, run, -⟩ := on_run_of_accepted accepted t
    exact .inl ⟨event, asked, fits, Attempt.on_bind_of_ok run _⟩
  · obtain ⟨e, failed⟩ := on_run_of_refused accepted t
    exact .inr ⟨e, Attempt.on_bind_of_error failed _⟩

end Call

/-- Calls made one after the other, those that fail too, leave a transcript with a history. -/
theorem exists_replay_eq (calls : List Call) (sized : ∀ call ∈ calls, call.Sized)
    (t : Transcript S) :
    ∃ history : List Event, (∀ event ∈ history, event.Fits) ∧
      calls.foldl (fun t call => (call.perform.on t).2) t = t.replay history := by
  induction calls generalizing t with
  | nil => exact ⟨[], fun _ none => (List.not_mem_nil none).elim, rfl⟩
  | cons call calls ih =>
    have later := fun t => ih (fun call listed => sized call (List.mem_cons_of_mem _ listed)) t
    rw [List.foldl_cons]
    rcases call.on_perform t with ⟨event, -, fits, run⟩ | ⟨e, failed⟩
    · obtain ⟨history, all, same⟩ := later (t.after event)
      refine ⟨event :: history, ?_, by rw [run, same, replay_cons]⟩
      exact List.forall_mem_cons.2 ⟨fits (sized call List.mem_cons_self), all⟩
    · obtain ⟨history, all, same⟩ := later t
      exact ⟨history, all, by rw [failed, same]⟩

end Transcript

end AmountProofs
