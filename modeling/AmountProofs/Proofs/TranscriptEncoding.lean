import AmountProofs.Proofs.TranscriptCalls
import AmountProofs.Suite.Standard
import Mathlib.Algebra.Group.Action.Defs
import Mathlib.Algebra.Order.BigOperators.Group.List
import Mathlib.Algebra.Order.Ring.Nat

/-!
What a transcript has absorbed tells its history.

A record gives the lengths of its label and of its message before their bytes, and a challenge's
record says how many bytes the challenge gives out, which are absorbed behind it without a length of
their own. So the first event of a history can be taken from the front of the bytes in one way
only (`eq_of_absorbed_after`), whatever the hash is, and with it all others
(`isPrefix_of_absorbed`): the bytes of one history begin those of another exactly if it begins the
other (`absorbed_isPrefix_iff`).
-/

namespace AmountProofs

variable {S : Suite}

namespace Transcript

/-! ## One record -/

theorem Operation.tag_injective : Function.Injective Operation.tag := by
  intro first second same
  cases first <;> cases second <;> first | rfl | exact absurd same (by decide)

/-- A record is taken from the front of a byte string in one way only. The length of a message is
absorbed modulo `2 ^ 64`, so two of them must not differ by a multiple of that. -/
theorem Record.eq_of_encode_append {r s : Record} {x y : Bytes}
    (shortLeft : r.label.length ≤ maxLabelSize) (shortRight : s.label.length ≤ maxLabelSize)
    (close : r.message.length % 2 ^ 64 = s.message.length % 2 ^ 64 →
      r.message.length = s.message.length)
    (same : r.encode ++ x = s.encode ++ y) : r = s ∧ x = y := by
  obtain ⟨operation, label, message⟩ := r
  obtain ⟨operation', label', message'⟩ := s
  have four : maxLabelSize < 256 ^ 4 := by decide
  simp only [encode, List.cons_append, List.append_assoc, List.cons.injEq] at same
  obtain ⟨tags, fields⟩ := same
  obtain ⟨sizes, fields⟩ := List.append_inj fields (by rw [Bytes.length_ofNat, Bytes.length_ofNat])
  have sized : label.length = label'.length :=
    Bytes.ofNat_inj_of_lt (shortLeft.trans_lt four) (shortRight.trans_lt four) sizes
  obtain ⟨labels, fields⟩ := List.append_inj fields sized
  obtain ⟨sizes, fields⟩ := List.append_inj fields (by rw [Bytes.length_ofNat, Bytes.length_ofNat])
  have modulo := congrArg Bytes.toNat sizes
  rw [Bytes.toNat_ofNat, Bytes.toNat_ofNat] at modulo
  obtain ⟨messages, rest⟩ := List.append_inj fields (close modulo)
  rw [Operation.tag_injective tags, labels, messages]
  exact ⟨rfl, rest⟩

/-! ## One event -/

theorem Event.length_label_le {event : Event} (fits : event.Fits) :
    event.record.label.length ≤ maxLabelSize := by
  cases event with
  | append => exact fits.1
  | challenge => exact fits.1

theorem Event.length_message_lt {event : Event} (fits : event.Fits) :
    event.record.message.length < 2 ^ 64 := by
  cases event with
  | append => exact fits.2
  | challenge label size =>
    have eight : 8 < 2 ^ 64 := by decide
    exact (Bytes.length_ofNat 8 size).trans_lt eight

/-- An event is told by its record. -/
theorem Event.eq_of_record_eq {first second : Event} (left : first.Fits) (right : second.Fits)
    (same : first.record = second.record) : first = second := by
  have eight : maxChallengeSize < 256 ^ 8 := by decide
  cases first with
  | append label message =>
    cases second with
    | append => cases same; rfl
    | challenge => cases same
  | challenge label size =>
    cases second with
    | append => cases same
    | challenge label' size' =>
      injection same with _ labels sizes
      have sized : size = size' :=
        Bytes.ofNat_inj_of_lt (left.2.2.trans_lt eight) (right.2.2.trans_lt eight) sizes
      rw [labels, sized]

/-- An event is taken from the front of the bytes in one way only. -/
theorem eq_of_absorbed_after {t : Transcript S} {first second : Event} {x y : Bytes}
    (left : first.Fits) (right : second.Fits)
    (same : (t.after first).absorbed ++ x = (t.after second).absorbed ++ y) :
    first = second ∧ x = y := by
  simp only [absorbed_after, List.append_assoc] at same
  have same := List.append_cancel_left same
  obtain ⟨records, rest⟩ := Record.eq_of_encode_append (Event.length_label_le left)
    (Event.length_label_le right) (fun modulo => by
      rwa [Nat.mod_eq_of_lt (Event.length_message_lt left),
        Nat.mod_eq_of_lt (Event.length_message_lt right)] at modulo) same
  obtain rfl := Event.eq_of_record_eq left right records
  exact ⟨rfl, List.append_cancel_left rest⟩

/-! ## How much is absorbed -/

/-- The number of bytes that an event absorbs. -/
def Event.span : Event → Nat
  | .append label message => 13 + label.length + message.length
  | .challenge label size => 21 + label.length + size

theorem Event.span_pos (event : Event) : 0 < event.span := by
  cases event with
  | append => simp only [span]; omega
  | challenge => simp only [span]; omega

theorem length_absorbed_after (t : Transcript S) (event : Event) :
    (t.after event).absorbed.length = t.absorbed.length + event.span := by
  rw [absorbed_after, List.length_append, List.length_append]
  cases event with
  | append label message =>
    simp only [Event.record, Record.encode, output, Event.span, List.length_cons,
      List.length_append, Bytes.length_ofNat, List.length_nil]
    omega
  | challenge label size =>
    simp only [Event.record, Record.encode, output, Event.span, List.length_cons,
      List.length_append, Bytes.length_ofNat, Vector.length_toList]
    omega

theorem length_absorbed_replay (t : Transcript S) (history : List Event) :
    (t.replay history).absorbed.length = t.absorbed.length + (history.map Event.span).sum := by
  induction history generalizing t with
  | nil => rfl
  | cons event history ih =>
    rw [replay_cons, ih, length_absorbed_after, List.map_cons, List.sum_cons, Nat.add_assoc]

/-- Nothing that was absorbed is taken back. -/
theorem absorbed_isPrefix_replay (t : Transcript S) (history : List Event) :
    t.absorbed <+: (t.replay history).absorbed := by
  induction history generalizing t with
  | nil => exact List.prefix_rfl
  | cons event history ih =>
    have step : t.absorbed <+: (t.after event).absorbed := by
      rw [absorbed_after]
      exact List.prefix_append _ _
    exact step.trans (ih _)

/-! ## Histories -/

/-- Where the bytes begin alike, the histories do. -/
theorem isPrefix_of_absorbed {t : Transcript S} {first second : List Event}
    (left : ∀ event ∈ first, event.Fits) (right : ∀ event ∈ second, event.Fits)
    (begins : (t.replay first).absorbed <+: (t.replay second).absorbed) : first <+: second := by
  induction first generalizing t second with
  | nil => exact List.nil_prefix
  | cons event first ih =>
    cases second with
    | nil =>
      -- Even the first event absorbs something.
      have longer := begins.length_le
      have positive := event.span_pos
      rw [length_absorbed_replay, List.map_cons, List.sum_cons, replay_nil] at longer
      omega
    | cons event' second =>
      obtain ⟨x, front⟩ := absorbed_isPrefix_replay (t.after event) first
      obtain ⟨y, back⟩ := absorbed_isPrefix_replay (t.after event') second
      obtain ⟨z, whole⟩ := begins
      have heads : (t.after event).absorbed ++ (x ++ z) = (t.after event').absorbed ++ y := by
        rw [← List.append_assoc, front, back]
        exact whole
      obtain ⟨rfl, -⟩ := eq_of_absorbed_after (left _ List.mem_cons_self)
        (right _ List.mem_cons_self) heads
      exact List.cons_prefix_cons.2 ⟨rfl, ih
        (fun e listed => left e (List.mem_cons_of_mem _ listed))
        (fun e listed => right e (List.mem_cons_of_mem _ listed)) ⟨z, whole⟩⟩

/-- Only equal histories absorb the same bytes. -/
theorem replay_injective {t : Transcript S} {first second : List Event}
    (left : ∀ event ∈ first, event.Fits) (right : ∀ event ∈ second, event.Fits)
    (same : (t.replay first).absorbed = (t.replay second).absorbed) : first = second := by
  have forth := isPrefix_of_absorbed left right ⟨[], by rw [List.append_nil, same]⟩
  have back := isPrefix_of_absorbed right left ⟨[], by rw [List.append_nil, same]⟩
  exact forth.eq_of_length (le_antisymm forth.length_le back.length_le)

/-! ## A first message of any length -/

/-- An event that fits and whose message is no longer than a challenge. -/
def Event.Small (event : Event) : Prop :=
  event.Fits ∧ event.record.message.length ≤ maxChallengeSize

theorem Event.small_append {label message : Bytes} (short : label.length ≤ maxLabelSize)
    (sized : message.length ≤ maxChallengeSize) : (append label message).Small := by
  have fits : maxChallengeSize < 2 ^ 64 := by decide
  exact ⟨⟨short, sized.trans_lt fits⟩, sized⟩

theorem Event.Small.span_le {event : Event} (small : event.Small) : event.span ≤ 2 ^ 33 := by
  have label : maxLabelSize = 2 ^ 32 - 1 := rfl
  have message : maxChallengeSize = 1024 := rfl
  obtain ⟨fits, sized⟩ := small
  cases event with
  | append label message =>
    obtain ⟨short, -⟩ := fits
    simp only [Event.record] at sized
    simp only [span]
    omega
  | challenge label size =>
    obtain ⟨short, -, asked⟩ := fits
    simp only [span]
    omega

/-- What a few small events absorb could not hide a message whose length overflows its field. -/
theorem sum_span_lt {history : List Event} (small : ∀ event ∈ history, event.Small)
    (few : history.length ≤ 2 ^ 30) : (history.map Event.span).sum < 2 ^ 64 := by
  have bounded := List.sum_le_card_nsmul (history.map Event.span) (2 ^ 33) (by
    intro span listed
    obtain ⟨event, member, rfl⟩ := List.mem_map.1 listed
    exact (small event member).span_le)
  rw [List.length_map, smul_eq_mul] at bounded
  omega

/-- The first message may be longer than its length field can say: if little is absorbed behind it,
the number of bytes tells its length. -/
theorem eq_of_absorbed_replay_cons {t : Transcript S} {label first second : Bytes}
    {rest rest' : List Event} (short : label.length ≤ maxLabelSize)
    (left : ∀ event ∈ rest, event.Small) (right : ∀ event ∈ rest', event.Small)
    (fewLeft : rest.length ≤ 2 ^ 30) (fewRight : rest'.length ≤ 2 ^ 30)
    (same : (t.replay (.append label first :: rest)).absorbed =
      (t.replay (.append label second :: rest')).absorbed) : first = second ∧ rest = rest' := by
  have lengths := congrArg List.length same
  simp only [length_absorbed_replay, List.map_cons, List.sum_cons, Event.span] at lengths
  have behindLeft := sum_span_lt left fewLeft
  have behindRight := sum_span_lt right fewRight
  obtain ⟨x, front⟩ := absorbed_isPrefix_replay (t.after (.append label first)) rest
  obtain ⟨y, back⟩ := absorbed_isPrefix_replay (t.after (.append label second)) rest'
  have heads := front.trans (same.trans back.symm)
  -- The lengths of the messages differ by less than `2 ^ 64`, so their fields tell them apart.
  simp only [absorbed_after, List.append_assoc] at heads
  obtain ⟨records, -⟩ := Record.eq_of_encode_append short short
    (fun modulo => by simp only [Event.record] at modulo ⊢; omega) (List.append_cancel_left heads)
  injection records with _ _ messages
  obtain rfl := messages
  exact ⟨rfl, replay_injective (fun event listed => (left event listed).1)
    (fun event listed => (right event listed).1) same⟩

/-! ## Challenges of one history -/

/-- The byte strings that the challenges of a history are squeezed from, in order. -/
def streams (t : Transcript S) : List Event → List Bytes
  | [] => []
  | .append label message :: rest => (t.after (.append label message)).streams rest
  | .challenge label size :: rest =>
    t.stream label size :: (t.after (.challenge label size)).streams rest

/-- A challenge is squeezed from more than was absorbed before. -/
theorem length_lt_of_mem_streams {t : Transcript S} {history : List Event} {stream : Bytes}
    (listed : stream ∈ t.streams history) : t.absorbed.length < stream.length := by
  induction history generalizing t with
  | nil => cases listed
  | cons event history ih =>
    have grows := length_absorbed_after t event
    have positive := event.span_pos
    cases event with
    | append label message =>
      have later := ih (t := t.after (.append label message)) listed
      omega
    | challenge label size =>
      rcases List.mem_cons.1 listed with rfl | listed
      · rw [Transcript.stream, List.length_append, Record.encode, List.length_cons]
        omega
      · have later := ih listed
        omega

/-- No two challenges of a history are squeezed from the same bytes. -/
theorem nodup_streams (t : Transcript S) (history : List Event) : (t.streams history).Nodup := by
  induction history generalizing t with
  | nil => exact List.nodup_nil
  | cons event history ih =>
    cases event with
    | append label message => exact ih _
    | challenge label size =>
      refine List.nodup_cons.2 ⟨fun again => ?_, ih _⟩
      have longer := length_lt_of_mem_streams again
      have kept : (t.stream label size).length ≤
          (t.after (.challenge label size)).absorbed.length := by
        rw [after, List.length_append]
        exact Nat.le_add_right _ _
      omega

/-! ## Histories with their labels -/

/-- The label that a transcript is created with, and what happens to it then. -/
structure History where
  label : Bytes
  events : List Event
  deriving DecidableEq

namespace History

/-- All events of a history: its label is absorbed as a domain. -/
def all (h : History) : List Event := .append domainLabel h.label :: h.events

def Fits (h : History) : Prop := ∀ event ∈ h.all, event.Fits

instance : DecidablePred Fits := fun h => inferInstanceAs (Decidable (∀ event ∈ h.all, event.Fits))

/-- The transcript that a history leads to. -/
def transcript (S : Suite) (h : History) : Transcript S := start.replay h.all

/-- One history begins another: they have the same label and the events of the one come first. -/
def Begins (first second : History) : Prop :=
  first.label = second.label ∧ first.events <+: second.events

theorem begins_iff {first second : History} : first.Begins second ↔ first.all <+: second.all := by
  rw [all, all, List.cons_prefix_cons, Begins]
  refine and_congr_left fun _ => ?_
  constructor
  · intro same
    rw [same]
  · intro same
    injection same

/-- Whatever the hash is, the bytes of one history begin those of another exactly if it begins the
other; equal bytes come from equal histories, and no two challenges of a history are squeezed
from the same bytes. What a caller does to a transcript is such a history: creating one
absorbs its label, and an operation that returns has absorbed the event that it was asked for. -/
theorem absorbed_isPrefix_iff (S : Suite) {first second : History} (left : first.Fits)
    (right : second.Fits) :
    ((first.transcript S).absorbed <+: (second.transcript S).absorbed ↔ first.Begins second) ∧
    ((first.transcript S).absorbed = (second.transcript S).absorbed → first = second) ∧
    ((start : Transcript S).streams first.all).Nodup ∧
    (∀ label (t : Transcript S), create label = .ok t →
      ∃ l, label.owned? = some l ∧ t = transcript S ⟨l, []⟩) ∧
    ∀ (call : Call) (t t' : Transcript S), call.Sized → call.perform.on t = (.ok (), t') →
      ∃ event, call.event? = some event ∧ event.Fits ∧ t' = t.after event := by
  refine ⟨⟨fun begins => ?_, fun begins => ?_⟩, fun same => ?_, nodup_streams _ _, ?_, ?_⟩
  · exact begins_iff.2 (isPrefix_of_absorbed left right begins)
  · obtain ⟨later, joined⟩ := begins_iff.1 begins
    rw [transcript, transcript, ← joined, replay_append]
    exact absorbed_isPrefix_replay _ _
  · have events := replay_injective left right same
    obtain ⟨labels, rest⟩ := List.cons.inj events
    obtain ⟨label, events⟩ := first
    cases labels
    cases rest
    rfl
  · intro label t created
    rw [create] at created
    rcases on_appendMessage_cases (.bytes domainLabel) label (start : Transcript S) with
      ⟨l, m, given, owned, -, run⟩ | ⟨e, failed⟩
    · cases given
      rw [separateDomain, run] at created
      cases created
      exact ⟨m, owned, rfl⟩
    · rw [separateDomain, failed] at created
      cases created
  · intro call t t' sized returned
    rcases call.on_perform t with ⟨event, asked, fits, run⟩ | ⟨e, failed⟩
    · rw [run] at returned
      cases returned
      exact ⟨event, asked, fits sized, rfl⟩
    · rw [failed] at returned
      cases returned

/-- One message behind a challenge: the bytes without it begin those with it, and not conversely. -/
theorem absorbed_isPrefix_of_one_more :
    let shorter : History := ⟨[1], [.challenge [2] 3]⟩
    let longer : History := ⟨[1], [.challenge [2] 3, .append [4] []]⟩
    (shorter.transcript Suite.standard).absorbed <+: (longer.transcript Suite.standard).absorbed ∧
      ¬(longer.transcript Suite.standard).absorbed <+:
        (shorter.transcript Suite.standard).absorbed := by
  intro shorter longer
  have fitsShorter : shorter.Fits := by decide
  have fitsLonger : longer.Fits := by decide
  constructor
  · refine (absorbed_isPrefix_iff Suite.standard fitsShorter fitsLonger).1.2 ⟨rfl, ?_⟩
    exact List.prefix_append _ _
  · intro begins
    have events := ((absorbed_isPrefix_iff Suite.standard fitsLonger fitsShorter).1.1 begins).2
    exact absurd events.length_le (by decide)

end History

end Transcript

end AmountProofs
