import AmountProofs.Json.Reader
import AmountProofs.Proofs.Outcomes
import Mathlib.Data.List.Nodup

/-!
Values that are read.

What the reader's steps keep holds of all that is read (`Json.forall_parse`). A name that is put into an
object again keeps its place, so no object that is read holds a name twice (`Json.namesOnce_of_parse`):
for each name an object has one member or none, and `Json.member?` finds it. No integer that is read has
too many digits, so what is read can be shown again (`Json.isShown_of_parse`).
-/

namespace AmountProofs

namespace Json

/-- Each object inside a value holds a name once at most. -/
inductive NamesOnce : Json → Prop
  | null : NamesOnce .null
  | bool (b : Bool) : NamesOnce (.bool b)
  | int (n : Int) : NamesOnce (.int n)
  | float (x : Binary64) : NamesOnce (.float x)
  | text (t : Text) : NamesOnce (.text t)
  | list {items : List Json} (each : ∀ x ∈ items, NamesOnce x) : NamesOnce (.list items)
  | object {members : List (Text × Json)} (distinct : (members.map Prod.fst).Nodup)
      (each : ∀ m ∈ members, NamesOnce m.2) : NamesOnce (.object members)

/-! ## Members by their names -/

section Members

variable {name : Text} {value : Json} {members : List (Text × Json)}

theorem setMember_of_notMem (fresh : name ∉ members.map Prod.fst) :
    setMember name value members = members ++ [(name, value)] := by
  induction members with
  | nil => rfl
  | cons member rest ih =>
    obtain ⟨key, old⟩ := member
    simp only [List.map_cons, List.mem_cons, not_or] at fresh
    rw [setMember, if_neg (Ne.symm fresh.1), ih fresh.2, List.cons_append]

theorem map_fst_setMember_of_mem (known : name ∈ members.map Prod.fst) :
    (setMember name value members).map Prod.fst = members.map Prod.fst := by
  induction members with
  | nil => cases known
  | cons member rest ih =>
    obtain ⟨key, old⟩ := member
    rw [setMember]
    split
    · rfl
    next other =>
      have known := (List.mem_cons.1 known).resolve_left (Ne.symm other)
      rw [List.map_cons, ih known, List.map_cons]

theorem nodup_setMember (distinct : (members.map Prod.fst).Nodup) :
    ((setMember name value members).map Prod.fst).Nodup := by
  by_cases known : name ∈ members.map Prod.fst
  · rw [map_fst_setMember_of_mem known]
    exact distinct
  · rw [setMember_of_notMem known, List.map_append]
    exact List.nodup_append.2 ⟨distinct, List.nodup_singleton _, by
      rintro key mem _ (_ | ⟨_, ⟨⟩⟩) rfl
      exact known mem⟩

theorem eq_or_mem_of_mem_setMember {member : Text × Json}
    (mem : member ∈ setMember name value members) : member = (name, value) ∨ member ∈ members := by
  induction members with
  | nil => exact .inl (List.mem_singleton.1 mem)
  | cons first rest ih =>
    obtain ⟨key, old⟩ := first
    rw [setMember] at mem
    split at mem
    next same =>
      subst same
      exact (List.mem_cons.1 mem).imp id (List.mem_cons_of_mem _)
    next =>
      obtain rfl | mem := List.mem_cons.1 mem
      · exact .inr List.mem_cons_self
      · exact (ih mem).imp id (List.mem_cons_of_mem _)

theorem mem_of_member?_eq_some (found : member? name members = some value) :
    (name, value) ∈ members := by
  induction members with
  | nil => cases found
  | cons member rest ih =>
    obtain ⟨key, old⟩ := member
    rw [member?] at found
    split at found
    next same =>
      cases found
      subst same
      exact List.mem_cons_self
    next => exact List.mem_cons_of_mem _ (ih found)

/-- With distinct names, the member of a name is the one that is found. -/
theorem member?_eq_some_iff (distinct : (members.map Prod.fst).Nodup) :
    member? name members = some value ↔ (name, value) ∈ members := by
  refine ⟨mem_of_member?_eq_some, fun mem => ?_⟩
  induction members with
  | nil => cases mem
  | cons member rest ih =>
    obtain ⟨key, old⟩ := member
    obtain ⟨fresh, distinct⟩ := List.nodup_cons.1 distinct
    rw [member?]
    obtain same | mem := List.mem_cons.1 mem
    · cases same
      exact if_pos rfl
    · have other : key ≠ name := by
        rintro rfl
        exact fresh (List.mem_map.2 ⟨_, mem, rfl⟩)
      rw [if_neg other]
      exact ih distinct mem

theorem member?_filter {kept : Text → Bool} (keep : kept name) (members : List (Text × Json)) :
    member? name (members.filter fun member => kept member.1) = member? name members := by
  induction members with
  | nil => rfl
  | cons member rest ih =>
    obtain ⟨key, old⟩ := member
    by_cases same : key = name
    · subst same
      simp [List.filter, keep, member?]
    · cases keepKey : kept key <;> simp [List.filter, keepKey, member?, same, ih]

end Members

/-! ## Values that are read -/

namespace Reader

section Atoms

variable {P : Json → Prop} {t rest : Text} {v : Json}

theorem forall_number? (ofInt : ∀ n, P (.int n)) (ofFloat : ∀ x, P (.float x))
    (read : number? t = some (v, rest)) : P v := by
  simp only [number?, Option.ite_none_left_eq_some] at read
  obtain ⟨-, made⟩ | ⟨-, made⟩ := ite_eq_iff.1 read.2
  · cases made
    exact ofInt _
  · cases made
    exact ofFloat _

theorem forall_atom? (ofNull : P .null) (ofBool : ∀ b, P (.bool b)) (ofInt : ∀ n, P (.int n))
    (ofFloat : ∀ x, P (.float x)) (read : atom? t = some (v, rest)) : P v := by
  unfold atom? at read
  split at read
  next found word =>
    cases read
    obtain ⟨⟨name, w⟩, known, after⟩ := List.exists_of_findSome?_eq_some word
    obtain ⟨_, -, same⟩ := Option.map_eq_some_iff.1 after
    cases same
    simp only [wordValues, List.mem_cons, Prod.mk.injEq, List.not_mem_nil, or_false] at known
    obtain ⟨-, rfl⟩ | ⟨-, rfl⟩ | ⟨-, rfl⟩ | ⟨-, rfl⟩ | ⟨-, rfl⟩ | ⟨-, rfl⟩ := known
    · exact ofNull
    · exact ofBool true
    · exact ofBool false
    · exact ofFloat _
    · exact ofFloat _
    · exact ofFloat _
  next => exact forall_number? ofInt ofFloat read

/-- A value without parts is read as it is unless it is an integer with too many digits. -/
theorem atom_eq_ok_iff :
    atom t = .ok (v, rest) ↔ atom? t = some (v, rest) ∧ ∀ n, v = .int n → Decimal.isShort n := by
  unfold atom
  split
  next n after found =>
    rw [found]
    split_ifs with short
    · constructor
      · intro same
        cases same
        exact ⟨rfl, fun m same => Json.int.inj same ▸ short⟩
      · intro ⟨same, _⟩
        cases same
        rfl
    · refine iff_of_false nofun fun ⟨same, allShort⟩ => ?_
      cases same
      exact short (allShort n rfl)
  next found other spelled =>
    rw [spelled, Except.ok.injEq, Option.some.injEq]
    refine ⟨fun same => ⟨same, fun n isInt => ?_⟩, And.left⟩
    cases same
    cases isInt
    exact absurd rfl (other n rest)
  next missing =>
    rw [missing]
    exact iff_of_false nofun nofun

end Atoms

section Steps

variable {fuel depth : Nat} {t rest : Text} {v : Json} {vs : List Json} {before ms : List (Text × Json)}

/-- A value that was read is a text, a word or a number, or it has what was read inside as its parts. -/
theorem value_eq_ok (read : Reader.value (fuel + 1) depth t = .ok (v, rest)) :
    (∃ s, v = .text s) ∨ (∃ inner, atom inner = .ok (v, rest)) ∨
      (∃ vs, v = .list vs ∧ (vs = [] ∨ ∃ inner, items fuel (depth - 1) inner = .ok (vs, rest))) ∨
      ∃ ms, v = .object ms ∧
        (ms = [] ∨ ∃ inner, members fuel (depth - 1) [] inner = .ok (ms, rest)) := by
  cases t with
  | nil => cases read
  | cons c tail =>
    rw [Reader.value] at read
    split at read
    · split at read
      · cases read
        exact .inl ⟨_, rfl⟩
      · cases read
    · split at read
      · split at read
        · cases read
        · split at read
          · split at read
            · cases read
              exact .inr (.inr (.inl ⟨[], rfl, .inl rfl⟩))
            · obtain ⟨⟨vs, after⟩, readItems, made⟩ := Outcome.bind_eq_ok_iff.1 read
              cases made
              exact .inr (.inr (.inl ⟨vs, rfl, .inr ⟨_, readItems⟩⟩))
          · cases read
      · split at read
        · split at read
          · cases read
          · split at read
            · split at read
              · cases read
                exact .inr (.inr (.inr ⟨[], rfl, .inl rfl⟩))
              · obtain ⟨⟨ms, after⟩, readMembers, made⟩ := Outcome.bind_eq_ok_iff.1 read
                cases made
                exact .inr (.inr (.inr ⟨ms, rfl, .inr ⟨_, readMembers⟩⟩))
            · cases read
        · exact .inr (.inl ⟨_, read⟩)

theorem items_eq_ok (read : items (fuel + 1) depth t = .ok (vs, rest)) :
    ∃ first after, Reader.value fuel depth t = .ok (first, after) ∧
      (vs = [first] ∨
        ∃ others inner, items fuel depth inner = .ok (others, rest) ∧ vs = first :: others) := by
  rw [items] at read
  obtain ⟨⟨first, after⟩, readFirst, read⟩ := Outcome.bind_eq_ok_iff.1 read
  refine ⟨first, after, readFirst, ?_⟩
  simp only at read
  split at read
  · split at read
    · cases read
      exact .inl rfl
    · split at read
      · obtain ⟨⟨others, _⟩, readOthers, made⟩ := Outcome.bind_eq_ok_iff.1 read
        cases made
        exact .inr ⟨others, _, readOthers, rfl⟩
      · cases read
  · cases read

/-- What is read behind a member: the closing brace, or a comma and more members. -/
def membersAfter (fuel depth : Nat) (known : List (Text × Json)) (t : Text) :
    Except ReadFailure (List (Text × Json) × Text) :=
  match skipSpace t with
  | c :: after =>
    if c.isChar '\x7d' then .ok (known, after)
    else if c.isChar ',' then members fuel depth known (skipSpace after)
    else .error .malformed
  | [] => .error .malformed

/-- The reader of members, without the detours of its checks. -/
theorem members_cons (fuel depth : Nat) (before : List (Text × Json)) (q : CodePoint) (t : Text) :
    members (fuel + 1) depth before (q :: t) =
      if q.isChar '"' then
        match string? (t.length + 1) t with
        | some (name, rest) =>
          match skipSpace rest with
          | colon :: rest =>
            if colon.isChar ':' then
              Reader.value fuel depth (skipSpace rest) >>= fun read =>
                membersAfter fuel depth (setMember name read.1 before) read.2
            else .error .malformed
          | [] => .error .malformed
        | none => .error .malformed
      else .error .malformed := by
  rw [members]
  cases opened : q.isChar '"' with
  | false => rfl
  | true =>
    cases string? (t.length + 1) t with
    | none => rfl
    | some found =>
      cases spaced : skipSpace found.2 with
      | nil => simp only [spaced]; rfl
      | cons colon rest =>
        cases divided : colon.isChar ':' <;> simp only [spaced, divided] <;> rfl

theorem members_eq_ok (read : members (fuel + 1) depth before t = .ok (ms, rest)) :
    ∃ name value inner after, Reader.value fuel depth inner = .ok (value, after) ∧
      (ms = setMember name value before ∨
        ∃ inner, members fuel depth (setMember name value before) inner = .ok (ms, rest)) := by
  cases t with
  | nil => cases read
  | cons q tail =>
    rw [members_cons] at read
    split at read
    · split at read
      next name _ _ =>
        split at read
        · split at read
          · obtain ⟨⟨value, after⟩, readValue, read⟩ := Outcome.bind_eq_ok_iff.1 read
            refine ⟨name, value, _, after, readValue, ?_⟩
            rw [membersAfter] at read
            split at read
            · split at read
              · cases read
                exact .inl rfl
              · split at read
                · exact .inr ⟨_, read⟩
                · cases read
            · cases read
          · cases read
        · cases read
      next => cases read
    · cases read

end Steps

/-- A property of texts and of values without parts, which lists and objects have if their parts have it
and which an object keeps when a member is put into it, is a property of all that is read. -/
theorem forall_readers {P : Json → Prop} (ofText : ∀ s, P (.text s))
    (ofAtom : ∀ t v rest, atom t = .ok (v, rest) → P v) (ofList : ∀ vs, (∀ x ∈ vs, P x) → P (.list vs))
    (ofNone : P (.object []))
    (ofMember : ∀ ms name v, P (.object ms) → P v → P (.object (setMember name v ms))) (fuel : Nat) :
    (∀ depth t v rest, Reader.value fuel depth t = .ok (v, rest) → P v) ∧
    (∀ depth t vs rest, items fuel depth t = .ok (vs, rest) → ∀ x ∈ vs, P x) ∧
    ∀ depth before t ms rest, P (.object before) → members fuel depth before t = .ok (ms, rest) →
      P (.object ms) := by
  induction fuel with
  | zero => exact ⟨nofun, nofun, nofun⟩
  | succ fuel ih =>
    obtain ⟨ihValue, ihItems, ihMembers⟩ := ih
    refine ⟨fun depth t v rest read => ?_, fun depth t vs rest read => ?_,
      fun depth before t ms rest known read => ?_⟩
    · obtain ⟨s, rfl⟩ | ⟨_, atom⟩ | ⟨vs, rfl, rfl | ⟨_, readItems⟩⟩ |
        ⟨ms, rfl, rfl | ⟨_, readMembers⟩⟩ := value_eq_ok read
      · exact ofText s
      · exact ofAtom _ _ _ atom
      · exact ofList [] nofun
      · exact ofList vs (ihItems _ _ _ _ readItems)
      · exact ofNone
      · exact ihMembers _ _ _ _ _ ofNone readMembers
    · obtain ⟨first, _, readFirst, rfl | ⟨others, _, readOthers, rfl⟩⟩ := items_eq_ok read
      · exact List.forall_mem_singleton.2 (ihValue _ _ _ _ readFirst)
      · exact List.forall_mem_cons.2 ⟨ihValue _ _ _ _ readFirst, ihItems _ _ _ _ readOthers⟩
    · obtain ⟨name, value, _, _, readValue, more⟩ := members_eq_ok read
      have put := ofMember before name value known (ihValue _ _ _ _ readValue)
      obtain rfl | ⟨_, readOthers⟩ := more
      · exact put
      · exact ihMembers _ _ _ _ _ put readOthers

end Reader

/-- The value of a text has every property that the reader's steps keep. -/
theorem forall_parse {P : Json → Prop} (ofText : ∀ s, P (.text s))
    (ofAtom : ∀ t v rest, Reader.atom t = .ok (v, rest) → P v)
    (ofList : ∀ vs, (∀ x ∈ vs, P x) → P (.list vs)) (ofNone : P (.object []))
    (ofMember : ∀ ms name v, P (.object ms) → P v → P (.object (setMember name v ms)))
    {t : Text} {nesting : Nat} {v : Json} (read : parse t nesting = .ok v) : P v := by
  obtain ⟨⟨w, rest⟩, readValue, done⟩ := Outcome.bind_eq_ok_iff.1 read
  simp only at done
  split at done
  · cases done
    exact (Reader.forall_readers ofText ofAtom ofList ofNone ofMember _).1 _ _ _ _ readValue
  · cases done

theorem NamesOnce.setMember {name : Text} {v : Json} {members : List (Text × Json)}
    (once : (Json.object members).NamesOnce) (value : v.NamesOnce) :
    (Json.object (setMember name v members)).NamesOnce := by
  cases once with
  | object distinct each =>
    refine .object (nodup_setMember distinct) fun m mem => ?_
    obtain rfl | mem := eq_or_mem_of_mem_setMember mem
    · exact value
    · exact each m mem

/-- No object that is read holds a name twice. -/
theorem namesOnce_of_parse {t : Text} {nesting : Nat} {v : Json} (read : parse t nesting = .ok v) :
    v.NamesOnce :=
  forall_parse .text
    (fun _ _ _ found => Reader.forall_atom? .null .bool .int .float (Reader.atom_eq_ok_iff.1 found).1)
    (fun _ => .list) (.object .nil nofun) (fun _ _ _ => .setMember) read

/-! ## Integers that are read -/

theorem isShown_list_iff {items : List Json} :
    (Json.list items).isShown ↔ ∀ x ∈ items, x.isShown := by
  rw [isShown]
  induction items with
  | nil => exact iff_of_true rfl nofun
  | cons x xs ih => rw [isShownItems, Bool.and_eq_true, ih, List.forall_mem_cons]

theorem isShown_object_iff {members : List (Text × Json)} :
    (Json.object members).isShown ↔ ∀ m ∈ members, m.2.isShown := by
  rw [isShown]
  induction members with
  | nil => exact iff_of_true rfl nofun
  | cons m ms ih =>
    obtain ⟨name, v⟩ := m
    rw [isShownMembers, Bool.and_eq_true, ih, List.forall_mem_cons]

/-- All that is read can be shown. -/
theorem isShown_of_parse {t : Text} {nesting : Nat} {v : Json} (read : parse t nesting = .ok v) :
    v.isShown := by
  refine forall_parse (P := fun v => v.isShown) (fun _ => rfl) (fun t v rest found => ?_)
    (fun _ => isShown_list_iff.2) rfl (fun ms name v known value => ?_) read
  · obtain ⟨found, short⟩ := Reader.atom_eq_ok_iff.1 found
    refine Reader.forall_atom? (P := fun v => (∀ n, v = .int n → Decimal.isShort n) → v.isShown)
      ?_ ?_ ?_ ?_ found short
    · exact fun _ => rfl
    · exact fun _ _ => rfl
    · exact fun n short => short n rfl
    · exact fun _ _ => rfl
  · rw [isShown_object_iff] at known ⊢
    intro m mem
    obtain rfl | mem := eq_or_mem_of_mem_setMember mem
    · exact value
    · exact known m mem

end Json

end AmountProofs
