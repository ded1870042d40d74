import AmountProofs.Proofs.BundleCompleteness
import AmountProofs.Proofs.ProofEncoding
import AmountProofs.Proofs.TranscriptEncoding

/-!
What the challenges of a verification bind.

`Bundle.challengeStream` and `Bundle.weightStream` are the bytes that the challenge and the weight
of a verification are squeezed from: what the check absorbs up to there, and the record of the
challenge itself. The first of them tell the kind, the label, the statement and the announced points,
and the second ones also the responses, whatever labels the policies name (`eq_of_streams_eq`). No
proof can be moved to another statement, then, without a new challenge.

Everything that is absorbed behind the label is small (`Statement.small_absorbing`), so nothing is
asked of the label itself.
-/

namespace AmountProofs

open Transcript (Event)

variable {S : Suite} {E : Type} [AddCommGroup E] [Module Residue E] {k k' : ProofKind}

namespace ProofKind

/-- A kind is told by the number of its equations, -/
theorem eq_of_rows_eq (same : k.rows = k'.rows) : k = k' := by
  cases k <;> cases k' <;> first | rfl | exact absurd same (by decide)

/-- and by the number of events that a verification of the kind takes. -/
theorem eq_of_size_eq (same : 2 * k.rows + k.witnesses = 2 * k'.rows + k'.witnesses) : k = k' := by
  cases k <;> cases k' <;> first | rfl | exact absurd same (by decide)

end ProofKind

/-! ## A check up to its challenges -/

namespace Proof

/-- A check up to the challenge; gives the points that are read by then. -/
def beforeChallenge (S : Suite) (p : Proof k) :
    Attempt (Transcript S) (Fin k.rows → Option (Point S)) := do
  Transcript.separateDomain (.bytes k.domain)
  Indexed.traverse fun i => absorbAnnouncement p i

/-- A check up to the weight; gives these points and the challenge. -/
def beforeWeight (S : Suite) (p : Proof k) :
    Attempt (Transcript S) ((Fin k.rows → Option (Point S)) × Scalar) := do
  let early ← beforeChallenge S p
  let c ← Transcript.challengeScalar challengeLabel
  Indexed.each fun j => Transcript.appendScalar (label (k.responseName j)) (p.responses j)
  return (early, c)

/-- The rest of a check. -/
def afterWeight (p : Proof k) (statement : Statement S k) (early : Fin k.rows → Option (Point S))
    (c w : Scalar) : Attempt (Transcript S) Unit := do
  let announced ← Indexed.traverse fun i => .ofExcept (readAnnouncement p i (early i))
  let total ← .ofExcept (sumTerms k (terms statement c w p.responses announced))
  if total.isNeutral then return ()
  else throw (.library (.create (.rejection k.family) .algebraicRelation "" .null))

/-- A check draws the weight where it is said to, and the challenge by the definition of what comes
before the weight. -/
theorem check_eq (p : Proof k) (statement : Statement S k) :
    check p statement = (do
      let (early, c) ← beforeWeight S p
      let w ← Transcript.challengeScalar weightLabel
      afterWeight p statement early c w) := by
  simp only [check, beforeWeight, beforeChallenge, afterWeight, bind_assoc, pure_bind]

variable {p : Proof k} {encoded : Fin k.rows → Bytes}

theorem on_beforeChallenge (owned : ∀ i, (p.announcements i).owned? = some (encoded i))
    (found : ∀ i, ∃ q : Point S, Point.ofPayload (p.announcements i) = .ok q)
    (t : Transcript S) :
    (beforeChallenge S p).on t = (.ok (early S p), t.replay (announcing k encoded)) := by
  rw [beforeChallenge, Attempt.on_bind_of_ok (Transcript.on_separateDomain rfl t),
    on_announce owned fun i _ => found i]

theorem on_beforeWeight (owned : ∀ i, (p.announcements i).owned? = some (encoded i))
    (found : ∀ i, ∃ q : Point S, Point.ofPayload (p.announcements i) = .ok q)
    (t : Transcript S) :
    (beforeWeight S p).on t =
      (.ok (early S p, drawnChallenge t encoded),
        t.replay (announcing k encoded ++ challengeEvent :: responding k p.responses)) := by
  rw [beforeWeight, Attempt.on_bind_of_ok (on_beforeChallenge owned found t),
    Attempt.on_bind_of_ok (on_challenge _), Attempt.on_bind_of_ok (on_respond _ _),
    Attempt.on_pure, Transcript.replay_append, Transcript.replay_cons]
  rfl

end Proof

/-! ## The bytes that challenges are squeezed from -/

namespace Bundle

/-- The transcript that a bundle is verified on, unless a key or the label is refused. -/
def bound (b : Bundle S k) (policy : Policy) : Except Failure (Transcript S) :=
  b.checkKeys policy >>= fun _ => b.statement.transcript policy

/-- The bytes that 64 bytes are squeezed from under a label, after a computation on the transcript
of a bundle; the failure if it is not reached. -/
def streamAfter {α : Type} (b : Bundle S k) (policy : Policy) (x : Attempt (Transcript S) α)
    (label : Bytes) : Except Failure Bytes := do
  let t ← b.bound policy
  match x.on t with
  | (.ok _, t) => return t.stream label 64
  | (.error e, _) => throw e

/-- The bytes that the challenge of a verification is squeezed from. -/
def challengeStream (b : Bundle S k) (policy : Policy) : Except Failure Bytes :=
  b.streamAfter policy (Proof.beforeChallenge S b.proof) (Bytes.ofAscii "c")

/-- The bytes that the weight of a verification is squeezed from. -/
def weightStream (b : Bundle S k) (policy : Policy) : Except Failure Bytes :=
  b.streamAfter policy (Proof.beforeWeight S b.proof) (Bytes.ofAscii "w")

/-- A bundle is verified on the transcript that binds its statement under the policy's label. -/
theorem exists_label_of_bound {b : Bundle S k} {policy : Policy} {t : Transcript S}
    (run : b.bound policy = .ok t) :
    ∃ label, policy.labelOr k.statementLabel = .ok label ∧
      t = Transcript.start.replay (b.statement.binding label) := by
  rcases allowed : b.checkKeys policy with e | u
  · rw [bound, allowed] at run
    cases run
  · rw [bound, allowed] at run
    rcases named : policy.labelOr k.statementLabel with e | label
    · have refused : b.statement.transcript policy = .error e := by
        rw [Statement.transcript, named]
        rfl
      cases refused.symm.trans run
    · exact ⟨label, rfl, Except.ok.inj (run.symm.trans (Statement.transcript_eq_ok named))⟩

theorem bound_eq_ok {b : Bundle S k} {policy : Policy} {label : Bytes}
    (allowed : b.checkKeys policy = .ok ()) (named : policy.labelOr k.statementLabel = .ok label) :
    b.bound policy = .ok (Transcript.start.replay (b.statement.binding label)) := by
  rw [bound, allowed]
  exact Statement.transcript_eq_ok named

/-- Once a bundle is bound, a computation that returns leads to its stream. -/
theorem streamAfter_eq {α : Type} {b : Bundle S k} {policy : Policy} {x : Attempt (Transcript S) α}
    {t u : Transcript S} {a : α} (given : b.bound policy = .ok t) (run : x.on t = (.ok a, u))
    (label : Bytes) : b.streamAfter policy x label = .ok (u.stream label 64) := by
  rw [streamAfter, given]
  change (match x.on t with
    | (.ok _, t) => pure (t.stream label 64)
    | (.error e, _) => throw e) = _
  rw [run]
  rfl

theorem exists_bound_of_streamAfter {α : Type} {b : Bundle S k} {policy : Policy}
    {x : Attempt (Transcript S) α} {label stream : Bytes}
    (reached : b.streamAfter policy x label = .ok stream) : ∃ t, b.bound policy = .ok t := by
  rcases given : b.bound policy with e | t
  · rw [streamAfter, given] at reached
    cases reached
  · exact ⟨t, rfl⟩

end Bundle

/-! ## What is absorbed behind the label -/

namespace Statement

/-- The absorption of the parts of a statement. -/
def partEvents (statement : Statement S k) : List Event :=
  statement.parts.map fun (name, part) => .append (Bytes.ofAscii name) part

@[simp] theorem length_partEvents (statement : Statement S k) :
    statement.partEvents.length = k.rows := by
  cases statement <;> rfl

/-- The bytes of a statement are the messages that are absorbed for it. -/
theorem toBytes_eq_flatMap (statement : Statement S k) :
    statement.toBytes = statement.partEvents.flatMap fun event => event.record.message := by
  rw [partEvents, List.flatMap_map]
  rfl

/-- Over the group, a statement is told by the absorption of its parts. -/
theorem eq_of_partEvents_eq {R : S.Reading E} {first second : Statement S k}
    (left : first.Covered R) (right : second.Covered R)
    (same : first.partEvents = second.partEvents) : first = second := by
  have bytes : first.toBytes = second.toBytes := by
    rw [toBytes_eq_flatMap, toBytes_eq_flatMap, same]
  have read := ofPayload_toBytes left
  rw [bytes, ofPayload_toBytes right] at read
  exact (Except.ok.inj read).symm

/-- What a verification absorbs behind the label, up to the challenge and then on. -/
def absorbing (statement : Statement S k) (encoded : Fin k.rows → Bytes) (later : List Event) :
    List Event :=
  statement.partEvents ++ (Proof.announcing k encoded ++ Proof.challengeEvent :: later)

theorem length_absorbing (statement : Statement S k) (encoded : Fin k.rows → Bytes)
    (later : List Event) :
    (statement.absorbing encoded later).length = 2 * k.rows + 2 + later.length := by
  simp only [absorbing, Proof.announcing, List.length_append, List.length_cons, length_partEvents,
    List.length_ofFn]
  omega

/-- Within one kind, what is absorbed tells the statement, the announced points and what comes
later. -/
theorem eq_of_absorbing_eq {R : S.Reading E} {first second : Statement S k}
    (left : first.Covered R) (right : second.Covered R) {encoded encoded' : Fin k.rows → Bytes}
    {later later' : List Event}
    (same : first.absorbing encoded later = second.absorbing encoded' later') :
    first = second ∧ encoded = encoded' ∧ later = later' := by
  obtain ⟨parts, rest⟩ := List.append_inj same (by rw [length_partEvents, length_partEvents])
  obtain ⟨announced, rest⟩ := List.append_inj rest (by simp [Proof.announcing])
  obtain ⟨-, announced⟩ := List.cons.inj announced
  refine ⟨eq_of_partEvents_eq left right parts, funext fun i => ?_, (List.cons.inj rest).2⟩
  have events := congrFun (List.ofFn_injective announced) i
  injection events

end Statement

/-! ## All that is absorbed is small -/

/-- No part of a statement is longer than the whole. -/
theorem Statement.length_part_le (statement : Statement S k) {part : String × Bytes}
    (listed : part ∈ statement.parts) : part.2.length ≤ Transcript.maxChallengeSize := by
  have inside : List.Sublist part.2 statement.toBytes := by
    rw [toBytes, List.flatMap_def]
    exact List.sublist_flatten_of_mem (List.mem_map_of_mem listed)
  have whole : statement.toBytes.length = 32 * k.points := by
    rw [toBytes_eq_concat, Chunks.length_concat, length_words]
    rfl
  have few : 32 * k.points ≤ Transcript.maxChallengeSize := by
    cases k <;> decide
  exact inside.length_le.trans (whole.trans_le few)

namespace Proof

theorem small_challengeEvent : challengeEvent.Small := by
  refine ⟨?_, ?_⟩ <;> decide +kernel

theorem small_weightEvent : weightEvent.Small := by
  refine ⟨?_, ?_⟩ <;> decide +kernel

theorem small_announcing {encoded : Fin k.rows → Bytes} (sized : ∀ i, (encoded i).length = 32) :
    ∀ event ∈ announcing k encoded, event.Small := by
  have fits : 32 ≤ Transcript.maxChallengeSize := by decide
  have domain : k.domain.length ≤ Transcript.maxChallengeSize := by
    cases k <;> decide +kernel
  intro event listed
  rcases List.mem_cons.1 listed with rfl | announced
  · exact Event.small_append (by decide +kernel) domain
  · obtain ⟨i, rfl⟩ := List.mem_ofFn.1 announced
    exact Event.small_append (length_announcementName_le k i) ((sized i).trans_le fits)

theorem small_responding (z : Fin k.witnesses → Scalar) :
    ∀ event ∈ responding k z, event.Small := by
  have fits : 32 ≤ Transcript.maxChallengeSize := by decide
  intro event listed
  obtain ⟨j, rfl⟩ := List.mem_ofFn.1 listed
  exact Event.small_append (length_responseName_le k j) ((Word.length_toBytes _).trans_le fits)

/-- What is absorbed after the challenge: the responses, and the draw of the weight. -/
def answering (k : ProofKind) (z : Fin k.witnesses → Scalar) : List Event :=
  responding k z ++ [weightEvent]

theorem length_answering (z : Fin k.witnesses → Scalar) :
    (answering k z).length = k.witnesses + 1 := by
  rw [answering, List.length_append, responding, List.length_ofFn, List.length_singleton]

theorem small_answering (z : Fin k.witnesses → Scalar) :
    ∀ event ∈ answering k z, event.Small := by
  intro event listed
  rcases List.mem_append.1 listed with answered | last
  · exact small_responding z event answered
  · rw [List.mem_singleton.1 last]
    exact small_weightEvent

theorem answering_injective : Function.Injective (answering k) := by
  intro z z' same
  funext j
  have events := congrFun (List.ofFn_injective (List.append_cancel_right same)) j
  injection events with _ bytes
  have words := congrArg Word.ofBytes bytes
  simp only [Scalar.toBytes, Word.ofBytes_toBytes] at words
  exact congrArg Scalar.mk words

end Proof

/-- Everything that is absorbed behind the label is small if what comes later is. -/
theorem Statement.small_absorbing (statement : Statement S k) {encoded : Fin k.rows → Bytes}
    (sized : ∀ i, (encoded i).length = 32) {later : List Event}
    (small : ∀ event ∈ later, event.Small) :
    ∀ event ∈ statement.absorbing encoded later, event.Small := by
  intro event listed
  rcases List.mem_append.1 listed with part | rest
  · obtain ⟨named, member, rfl⟩ := List.mem_map.1 part
    exact Event.small_append (statement.length_partName_le named member)
      (statement.length_part_le member)
  rcases List.mem_append.1 rest with announced | drawn
  · exact Proof.small_announcing sized event announced
  rcases List.mem_cons.1 drawn with rfl | later
  · exact Proof.small_challengeEvent
  · exact small event later

/-! ## Equal streams -/

namespace Bundle

variable {b : Bundle S k} {b' : Bundle S k'} {policy policy' : Policy}
  {encoded : Fin k.rows → Bytes} {encoded' : Fin k'.rows → Bytes} {later later' : List Event}

/-- A stream and what is squeezed from it are what is absorbed under a policy's label, the
statement, the announced points and a few later events. -/
structure Squeezes (b : Bundle S k) (policy : Policy) (encoded : Fin k.rows → Bytes)
    (later : List Event) (stream : Bytes) : Prop where
  sized : ∀ i, (encoded i).length = 32
  small : ∀ event ∈ later, event.Small
  few : later.length ≤ 4
  absorbed : ∃ label, policy.labelOr k.statementLabel = .ok label ∧
    stream ++ (S.xof stream 64).toList = (Transcript.start.replay (S := S)
      (.append Transcript.domainLabel label :: b.statement.absorbing encoded later)).absorbed

theorem absorbed_of_streamAfter {α : Type} {x : Attempt (Transcript S) α} {events : List Event}
    {label stream : Bytes} (run : ∀ t, ∃ a, x.on t = (.ok a, t.replay events))
    (whole : b.statement.absorbing encoded later =
      b.statement.partEvents ++ (events ++ [.challenge label 64]))
    (reached : b.streamAfter policy x label = .ok stream) :
    ∃ label, policy.labelOr k.statementLabel = .ok label ∧
      stream ++ (S.xof stream 64).toList = (Transcript.start.replay (S := S) (.append
        Transcript.domainLabel label :: b.statement.absorbing encoded later)).absorbed := by
  obtain ⟨t, given⟩ := exists_bound_of_streamAfter reached
  obtain ⟨name, named, rfl⟩ := exists_label_of_bound given
  obtain ⟨a, ran⟩ := run (Transcript.start.replay (b.statement.binding name))
  rw [streamAfter_eq given ran] at reached
  cases reached
  refine ⟨name, named, ?_⟩
  rw [whole, Transcript.replay_cons, Transcript.replay_append, Transcript.replay_append]
  rfl

/-- Nothing comes after the challenge when the challenge is squeezed. -/
theorem squeezes_challengeStream (encodes : b.proof.Encodes S encoded) {stream : Bytes}
    (reached : b.challengeStream policy = .ok stream) : b.Squeezes policy encoded [] stream where
  sized := encodes.sized
  small _ listed := nomatch listed
  few := Nat.zero_le 4
  absorbed := absorbed_of_streamAfter
    (fun t => ⟨_, Proof.on_beforeChallenge encodes.owned encodes.found t⟩) rfl reached

/-- When the weight is squeezed, the responses have come after the challenge. -/
theorem squeezes_weightStream (encodes : b.proof.Encodes S encoded) {stream : Bytes}
    (reached : b.weightStream policy = .ok stream) :
    b.Squeezes policy encoded (Proof.answering k b.proof.responses) stream where
  sized := encodes.sized
  small := Proof.small_answering _
  few := by
    rw [Proof.length_answering]
    cases k <;> decide
  absorbed := absorbed_of_streamAfter
    (fun t => ⟨_, Proof.on_beforeWeight encodes.owned encodes.found t⟩)
    (by rw [Statement.absorbing, List.append_assoc, List.cons_append]; rfl) reached

/-- Equal streams are squeezed under the same label from the same events. -/
theorem Squeezes.eq_of_eq {stream : Bytes} (first : b.Squeezes policy encoded later stream)
    (second : b'.Squeezes policy' encoded' later' stream) :
    (∃ label, policy.labelOr k.statementLabel = .ok label ∧
      policy'.labelOr k'.statementLabel = .ok label) ∧
    b.statement.absorbing encoded later = b'.statement.absorbing encoded' later' := by
  obtain ⟨label, named, absorbed⟩ := first.absorbed
  obtain ⟨label', named', absorbed'⟩ := second.absorbed
  have rows (k : ProofKind) : k.rows ≤ 4 := by cases k <;> decide
  have fewLeft : (b.statement.absorbing encoded later).length ≤ 2 ^ 30 := by
    have few := first.few
    have fewRows := rows k
    rw [Statement.length_absorbing]
    omega
  have fewRight : (b'.statement.absorbing encoded' later').length ≤ 2 ^ 30 := by
    have few := second.few
    have fewRows := rows k'
    rw [Statement.length_absorbing]
    omega
  obtain ⟨rfl, events⟩ := Transcript.eq_of_absorbed_replay_cons (by decide +kernel)
    (b.statement.small_absorbing first.sized first.small)
    (b'.statement.small_absorbing second.sized second.small) fewLeft fewRight
    (absorbed.symm.trans absorbed')
  exact ⟨⟨label, named, named'⟩, events⟩

/-- Two verifications are of one kind, under one label, of one statement and with the same
announced points. -/
structure Alike (b : Bundle S k) (policy : Policy) (b' : Bundle S k') (policy' : Policy) :
    Prop where
  kinds : k = k'
  labels : ∃ label, policy.labelOr k.statementLabel = .ok label ∧
    policy'.labelOr k'.statementLabel = .ok label
  statements : HEq b.statement b'.statement
  announcements : HEq b.proof.announcements b'.proof.announcements

/-- A bundle whose keys and label are allowed is verified with what is squeezed from its two
streams. -/
theorem exists_streams (encodes : b.proof.Encodes S encoded) {label : Bytes}
    (allowed : b.checkKeys policy = .ok ()) (named : policy.labelOr k.statementLabel = .ok label) :
    ∃ x y, b.challengeStream policy = .ok x ∧ b.weightStream policy = .ok y ∧
      (b.verify policy).1 = within k.family (Proof.readAll b.proof >>= fun announced =>
        Proof.ruling k (Proof.sumTerms k (Proof.terms b.statement (.ofWide (S.xof x 64))
          (.ofWide (S.xof y 64)) b.proof.responses announced))) := by
  have given := bound_eq_ok allowed named
  set t : Transcript S := Transcript.start.replay (b.statement.binding label)
  refine ⟨_, _, streamAfter_eq given (Proof.on_beforeChallenge encodes.owned encodes.found t) _,
    streamAfter_eq given (Proof.on_beforeWeight encodes.owned encodes.found t) _, ?_⟩
  rw [verify_of_bound allowed (Statement.transcript_eq_ok named), Proof.verify,
    Proof.on_check encodes.owned fun i _ => encodes.found i]
  rfl

/-- Verifications of one kind that absorb the same under the same label are alike. -/
theorem alike_of_absorbing_eq {R : S.Reading E} (covered : b.statement.Covered R)
    (covered' : b'.statement.Covered R) (encodes : b.proof.Encodes S encoded)
    (encodes' : b'.proof.Encodes S encoded') (kinds : k = k')
    (labels : ∃ label, policy.labelOr k.statementLabel = .ok label ∧
      policy'.labelOr k'.statementLabel = .ok label)
    (events : b.statement.absorbing encoded later = b'.statement.absorbing encoded' later') :
    b.Alike policy b' policy' ∧ later = later' := by
  subst kinds
  obtain ⟨statements, announced, rest⟩ := Statement.eq_of_absorbing_eq covered covered' events
  refine ⟨⟨rfl, labels, heq_of_eq statements, heq_of_eq ?_⟩, rest⟩
  rw [encodes.announced, encodes'.announced, announced]

theorem alike_of_challengeStream_eq {R : S.Reading E} (covered : b.statement.Covered R)
    (covered' : b'.statement.Covered R) (encodes : b.proof.Encodes S encoded)
    (encodes' : b'.proof.Encodes S encoded') {stream : Bytes}
    (first : b.challengeStream policy = .ok stream)
    (second : b'.challengeStream policy' = .ok stream) : b.Alike policy b' policy' := by
  obtain ⟨labels, events⟩ :=
    (squeezes_challengeStream encodes first).eq_of_eq (squeezes_challengeStream encodes' second)
  have sizes := congrArg List.length events
  rw [Statement.length_absorbing, Statement.length_absorbing] at sizes
  have kinds : k = k' := ProofKind.eq_of_rows_eq (by omega)
  exact (alike_of_absorbing_eq covered covered' encodes encodes' kinds labels events).1

theorem alike_of_weightStream_eq {R : S.Reading E} (covered : b.statement.Covered R)
    (covered' : b'.statement.Covered R) (encodes : b.proof.Encodes S encoded)
    (encodes' : b'.proof.Encodes S encoded') {stream : Bytes}
    (first : b.weightStream policy = .ok stream)
    (second : b'.weightStream policy' = .ok stream) :
    b.Alike policy b' policy' ∧ HEq b.proof.responses b'.proof.responses := by
  obtain ⟨labels, events⟩ :=
    (squeezes_weightStream encodes first).eq_of_eq (squeezes_weightStream encodes' second)
  have sizes := congrArg List.length events
  rw [Statement.length_absorbing, Statement.length_absorbing, Proof.length_answering,
    Proof.length_answering] at sizes
  have kinds : k = k' := ProofKind.eq_of_size_eq (by omega)
  obtain ⟨alike, answers⟩ :=
    alike_of_absorbing_eq covered covered' encodes encodes' kinds labels events
  refine ⟨alike, ?_⟩
  subst kinds
  exact heq_of_eq (Proof.answering_injective answers)

/-- The last thing that is absorbed for a challenge is its own draw, and for a weight that of the
weight. -/
theorem challengeStream_ne_weightStream (encodes : b.proof.Encodes S encoded)
    (encodes' : b'.proof.Encodes S encoded') {stream : Bytes}
    (first : b.challengeStream policy = .ok stream) : b'.weightStream policy' ≠ .ok stream := by
  intro second
  obtain ⟨-, events⟩ :=
    (squeezes_challengeStream encodes first).eq_of_eq (squeezes_weightStream encodes' second)
  have lastOfFirst : (b.statement.absorbing encoded []).getLast? = some Proof.challengeEvent := by
    simp [Statement.absorbing]
  have lastOfSecond : (b'.statement.absorbing encoded'
      (Proof.answering k' b'.proof.responses)).getLast? = some Proof.weightEvent := by
    simp [Statement.absorbing, Proof.answering, List.getLast?_cons]
  rw [events, lastOfSecond] at lastOfFirst
  exact absurd (Option.some.inj lastOfFirst) (by decide +kernel)

/-- Whatever the policies are, equal challenge streams come from verifications of one kind, under
one label, of one statement and with the same announced points, and equal weight streams also from
the same responses; no challenge stream is a weight stream. A verification whose keys and label are
allowed has both streams, and its result is what the scalars squeezed from them decide. -/
theorem eq_of_streams_eq (R : S.Reading E) (policy policy' : Policy)
    (covered : b.statement.Covered R) (covered' : b'.statement.Covered R) {data data' : Payload}
    (decoded : Proof.ofPayload S k data = .ok b.proof)
    (decoded' : Proof.ofPayload S k' data' = .ok b'.proof) :
    (∀ x, b.challengeStream policy = .ok x → b'.challengeStream policy' = .ok x →
      b.Alike policy b' policy') ∧
    (∀ x, b.weightStream policy = .ok x → b'.weightStream policy' = .ok x →
      b.Alike policy b' policy' ∧ HEq b.proof.responses b'.proof.responses) ∧
    (∀ x, b.challengeStream policy = .ok x → b'.weightStream policy' ≠ .ok x) ∧
    ∀ label, b.checkKeys policy = .ok () → policy.labelOr k.statementLabel = .ok label →
      ∃ x y, b.challengeStream policy = .ok x ∧ b.weightStream policy = .ok y ∧
        (b.verify policy).1 = within k.family (Proof.readAll b.proof >>= fun announced =>
          Proof.ruling k (Proof.sumTerms k (Proof.terms b.statement (.ofWide (S.xof x 64))
            (.ofWide (S.xof y 64)) b.proof.responses announced))) := by
  obtain ⟨encoded, encodes⟩ := Proof.exists_encodes_of_ofPayload decoded
  obtain ⟨encoded', encodes'⟩ := Proof.exists_encodes_of_ofPayload decoded'
  refine ⟨fun x first second => ?_, fun x first second => ?_, fun x first => ?_,
    fun label allowed named => ?_⟩
  · exact alike_of_challengeStream_eq covered covered' encodes encodes' first second
  · exact alike_of_weightStream_eq covered covered' encodes encodes' first second
  · exact challengeStream_ne_weightStream encodes encodes' first
  · exact exists_streams encodes allowed named

/-- A bundle with the generator announced for every equation and no response but zero. -/
def unproved (R : S.Reading E) (statement : Statement S k) : Bundle S k :=
  ⟨statement, ⟨fun _ => .bytes (R.point R.base).toBytes, fun _ => .zero⟩⟩

theorem exists_data_unproved (R : S.Reading E) (statement : Statement S k) :
    ∃ data, Proof.ofPayload S k data = .ok (unproved R statement).proof := by
  have reduced : Scalar.zero.isCanonical = true := by decide +kernel
  exact ⟨_, Proof.ofPayload_concat (fun _ => R.base) fun _ => reduced⟩

/-- Under the common label `x`, proofs of different kinds still have different challenges. -/
theorem challengeStream_ne_of_common_label :
    let R := Suite.standardReading
    let neutral : Statement Suite.standard .zeroCiphertext :=
      .zeroCiphertext ⟨R.point 0⟩ ⟨⟨R.point 0⟩, ⟨R.point 0⟩⟩
    let policy : Policy := { label := [120] }
    ∃ x y, (unproved R neutral).challengeStream policy = .ok x ∧
      (unproved R (.sample R)).challengeStream policy = .ok y ∧ x ≠ y := by
  intro R neutral policy
  have covered : neutral.Covered R := by
    intro i
    fin_cases i <;> exact R.point_mem _
  obtain ⟨data, decoded⟩ := exists_data_unproved R neutral
  obtain ⟨data', decoded'⟩ := exists_data_unproved R (.sample R)
  have paired : ∀ c ∈ policy.label, c.isSurrogate = false := by
    intro c listed
    rw [List.mem_singleton.1 listed]
    decide +kernel
  obtain ⟨label, named⟩ := Policy.labelOr_eq_ok paired ProofKind.zeroCiphertext.statementLabel
  obtain ⟨label', named'⟩ := Policy.labelOr_eq_ok paired ProofKind.ciphertextEquality.statementLabel
  obtain ⟨alike, -, -, streams⟩ := eq_of_streams_eq R policy policy covered
    (Statement.covered_sample R) decoded decoded'
  obtain ⟨-, -, -, streams'⟩ := eq_of_streams_eq R policy policy
    (Statement.covered_sample R) covered decoded' decoded
  obtain ⟨x, -, reached, -⟩ := streams label rfl named
  obtain ⟨y, -, reached', -⟩ := streams' label' rfl named'
  refine ⟨x, y, reached, reached', fun same => ?_⟩
  have kinds := (alike x reached (by rw [reached', same])).kinds
  cases kinds

end Bundle

end AmountProofs
