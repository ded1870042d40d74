import AmountProofs.Proofs.JsonNames
import AmountProofs.Proofs.SettingsReading

/-!
What becomes of the members of a settings file.

Three names of an object are those of settings, and five of the object for the log. What stands under
one of them is kept as it is and written again by `Settings.toJson`. Inside the log's object any other
name is refused; outside it any other name is passed over, so a misspelt name leaves its setting at the
value that it has when the name is missing (`Settings.load_members`).
-/

namespace AmountProofs

namespace LogSettings

/-- The settings of the log as the members of an object. -/
def named (s : LogSettings) : List (Text × Json) :=
  s.members.map fun (name, value) => (Text.ofString name, value)

/-- The names of the settings of the log. -/
def names : List Text := ["level", "file", "format", "max_size_mb", "backup_count"].map Text.ofString

variable {s s' : LogSettings} {name : Text} {value : Json} {members : List (Text × Json)}

theorem set?_eq_none_iff : s.set? name value = none ↔ name ∉ names := by
  unfold set?
  split_ifs <;> simp_all [names]

/-- Setting a field changes this one alone. -/
theorem mem_named_of_set?_eq_some (set : s.set? name value = some s') :
    (name, value) ∈ s'.named ∧ ∀ member ∈ s.named, member.1 ≠ name → member ∈ s'.named := by
  unfold set? at set
  split_ifs at set with level file format size count <;> cases set <;> subst name
  all_goals
    refine ⟨by simp [named, LogSettings.members], fun member mem other => ?_⟩
    simp only [named, LogSettings.members, List.map_cons, List.map_nil, List.mem_cons,
      List.not_mem_nil, or_false] at mem ⊢
    rcases mem with rfl | rfl | rfl | rfl | rfl <;> simp at other ⊢

/-- Members are taken if each has the name of a setting. -/
theorem setAll_eq_error_iff {e : Failure} :
    s.setAll members = .error e ↔ e = .wrongType ∧ ∃ member ∈ members, member.1 ∉ names := by
  induction members generalizing s with
  | nil => simp [setAll]
  | cons member rest ih =>
    obtain ⟨name, value⟩ := member
    cases set : s.set? name value with
    | none => simp [setAll, set, set?_eq_none_iff.1 set, eq_comm]
    | some s' =>
      have known : name ∈ names := by
        by_contra unknown
        rw [set?_eq_none_iff.2 unknown] at set
        cases set
      simp [setAll, set, known, ih]

/-- Members that are taken are fields afterwards; fields that no member names stay. -/
theorem mem_named_of_setAll (set : s.setAll members = .ok s')
    (distinct : (members.map Prod.fst).Nodup) :
    members ⊆ s'.named ∧ ∀ member ∈ s.named, member.1 ∉ members.map Prod.fst → member ∈ s'.named := by
  induction members generalizing s with
  | nil =>
    cases set
    exact ⟨List.nil_subset _, fun member mem _ => mem⟩
  | cons member rest ih =>
    obtain ⟨name, value⟩ := member
    obtain ⟨fresh, distinct⟩ := List.nodup_cons.1 distinct
    rw [setAll] at set
    split at set
    next s'' first =>
      obtain ⟨put, others⟩ := mem_named_of_set?_eq_some first
      obtain ⟨taken, stay⟩ := ih set distinct
      refine ⟨List.cons_subset.2 ⟨stay _ put fresh, taken⟩, fun member mem unnamed => ?_⟩
      rw [List.map_cons, List.mem_cons, not_or] at unnamed
      exact stay member (others member mem unnamed.1) unnamed.2
    next => cases set

/-- The members of an object that settings of the log were read from are written again. -/
theorem exists_members_of_ofJson {v : Json} (read : ofJson v = .ok s) (once : v.NamesOnce) :
    ∃ members, v = .object members ∧ members ⊆ s.named := by
  cases v with
  | object members =>
    cases once with
    | object distinct => exact ⟨members, rfl, (mem_named_of_setAll read distinct).1⟩
  | _ => cases read

end LogSettings

namespace Settings

variable {d : Directory} {path : String} {e : Failure} {v : Json} {s : Settings}
  {members : List (Text × Json)}

/-- The names of settings in an object. -/
def names : List Text := [rejectName, labelName, logName].map Text.ofString

/-- The members of an object that settings are taken from. -/
def taken (members : List (Text × Json)) : List (Text × Json) :=
  members.filter fun member => names.contains member.1

theorem member?_taken {name : Text} (known : names.contains name) (members : List (Text × Json)) :
    Json.member? name (taken members) = Json.member? name members :=
  Json.member?_filter known members

/-- Members with other names make no difference. -/
theorem ofJson_taken (path : String) (members : List (Text × Json)) :
    ofJson path (.object (taken members)) = ofJson path (.object members) := by
  simp only [ofJson, rejectOf, labelOf, logOf,
    member?_taken (show names.contains (Text.ofString rejectName) from rfl) members,
    member?_taken (show names.contains (Text.ofString labelName) from rfl) members,
    member?_taken (show names.contains (Text.ofString logName) from rfl) members]

theorem eq_of_rejectOf (read : rejectOf path members = .ok s.rejectNeutralKeys)
    (found : Json.member? (Text.ofString rejectName) members = some v) : v = s.rejectNeutralKeys := by
  rw [rejectOf, found, Option.getD_some] at read
  split at read
  · exact Except.ok.inj read
  · cases read

theorem eq_of_labelOf (read : labelOf path members = .ok s.label)
    (found : Json.member? (Text.ofString labelName) members = some v) : v = s.label := by
  rw [labelOf, found, Option.getD_some] at read
  split at read
  · exact Except.ok.inj read
  · cases read

/-- A member for the log that is no object of its settings is reported. -/
theorem exists_ofJson_of_logOf {log : LogSettings} (read : logOf path members = .ok log)
    (found : Json.member? (Text.ofString logName) members = some v) :
    LogSettings.ofJson v = .ok log := by
  rw [logOf, found] at read
  exact Outcome.mapError_eq_ok_iff.1 read

/-- The members of all settings. -/
def named (s : Settings) : List (Text × Json) :=
  [(rejectName, s.rejectNeutralKeys), (labelName, s.label), (logName, s.log.toJson)].map
    fun (name, value) => (Text.ofString name, value)

/-- Settings are written as the object of their members, unless a value is nested too deeply. -/
theorem toJson_outcome (s : Settings) (room : Nat) :
    s.toJson room = .ok (.object s.named) ∨ s.toJson room = .error .nestedTooDeeply := by
  unfold toJson
  split_ifs
  · exact .inl rfl
  · exact .inr rfl

/-- Settings hold what stands under their names in the object that they were read from. -/
theorem mem_named_of_ofJson (read : ofJson path (.object members) = .ok s)
    (once : (Json.object members).NamesOnce) {member : Text × Json} (mem : member ∈ members)
    (known : member.1 ∈ names) :
    member ∈ s.named ∨ member.1 = Text.ofString logName ∧
      ∃ logMembers, member.2 = .object logMembers ∧ logMembers ⊆ s.log.named := by
  obtain ⟨_, ⟨⟩, rejected, labelled, logged, -⟩ := ofJson_eq_ok_iff.1 read
  obtain ⟨name, value⟩ := member
  cases once with
  | object distinct each =>
    have found := (Json.member?_eq_some_iff distinct).2 mem
    simp only [names, List.map_cons, List.map_nil, List.mem_cons, List.not_mem_nil, or_false] at known
    rcases known with rfl | rfl | rfl
    · obtain rfl := eq_of_rejectOf rejected found
      exact .inl (by simp [named])
    · obtain rfl := eq_of_labelOf labelled found
      exact .inl (by simp [named])
    · exact .inr ⟨rfl, LogSettings.exists_members_of_ofJson (exists_ofJson_of_logOf logged found)
        (each _ mem)⟩

/-- **What becomes of the members of a settings file.** Members with other names than those of
settings make no difference to what is read, whatever they are. A name inside the log's object that no
setting has is reported. If settings are read, every other member is written again as it was, or their
values are nested too deeply to be written in the room that the caller leaves. -/
theorem load_members {nesting : Nat} (read : readJson d path nesting = .ok (.object members)) :
    (load d path nesting).1 = ofJson path (.object (taken members)) ∧
    (∀ logMembers, (Text.ofString logName, .object logMembers) ∈ members →
      (∃ member ∈ logMembers, member.1 ∉ LogSettings.names) →
      ∃ e, (load d path nesting).1 = .error e ∧ Reports path e) ∧
    ∀ s, (load d path nesting).1 = .ok s → ∀ room,
      s.toJson room = .error .nestedTooDeeply ∨
      ∃ written writtenLog, s.toJson room = .ok (.object written) ∧
        (Text.ofString logName, .object writtenLog) ∈ written ∧
        ∀ member ∈ taken members, member ∈ written ∨ member.1 = Text.ofString logName ∧
          ∃ logMembers, member.2 = .object logMembers ∧ logMembers ⊆ writtenLog := by
  have loaded : (load d path nesting).1 = ofJson path (.object members) := by
    rw [load_fst, read]
    rfl
  have once : (Json.object members).NamesOnce := by
    obtain ⟨_, _, -, -, parsed⟩ := readJson_eq_ok_iff.1 read
    exact Json.namesOnce_of_parse parsed
  refine ⟨loaded.trans (ofJson_taken path members).symm, fun logMembers mem unknown => ?_,
    fun s accepted room => ?_⟩
  · have refused (log : LogSettings) : logOf path members ≠ .ok log := fun logged => by
      cases once with
      | object distinct =>
        have taken := exists_ofJson_of_logOf logged ((Json.member?_eq_some_iff distinct).2 mem)
        have rejected : LogSettings.ofJson (.object logMembers) = .error .wrongType :=
          LogSettings.setAll_eq_error_iff.2 ⟨rfl, unknown⟩
        rw [rejected] at taken
        cases taken
    rw [loaded]
    cases made : ofJson path (.object members) with
    | ok s =>
      obtain ⟨_, ⟨⟩, -, -, logged, -⟩ := ofJson_eq_ok_iff.1 made
      exact absurd logged (refused s.log)
    | error e =>
      obtain reports | ⟨_, _, _, log, ⟨⟩, -, -, logged, -⟩ := ofJson_eq_error made
      · exact ⟨e, rfl, reports⟩
      · exact absurd logged (refused log)
  · rw [loaded] at accepted
    obtain written | deep := toJson_outcome s room
    · refine .inr ⟨s.named, s.log.named, written, ?_, fun member mem => ?_⟩
      · exact List.mem_cons_of_mem _ (List.mem_cons_of_mem _ List.mem_cons_self)
      obtain ⟨mem, known⟩ := List.mem_filter.1 mem
      exact mem_named_of_ofJson accepted once mem (List.contains_iff_mem.1 known)
    · exact .inl deep

/-- A directory with a settings file in which the name of a setting is misspelt. -/
def misspelt : Directory :=
  [("config.json", Bytes.ofAscii "\x7b\"reject_identity_pubkey\": true\x7d")]

theorem readJson_misspelt : readJson misspelt "config.json" =
    .ok (.object [(Text.ofString "reject_identity_pubkey", .bool true)]) :=
  readJson_eq_ok_iff.2
    ⟨_, Text.ofString "\x7b\"reject_identity_pubkey\": true\x7d", rfl, by decide, by cbv⟩

/-- The member of the misspelt name is passed over: the settings that are read are those of an object
without members. -/
theorem load_misspelt :
    taken [(Text.ofString "reject_identity_pubkey", .bool true)] = [] ∧
      (load misspelt "config.json").1 = .ok {} :=
  ⟨rfl, (load_members readJson_misspelt).1.trans rfl⟩

end Settings

end AmountProofs
