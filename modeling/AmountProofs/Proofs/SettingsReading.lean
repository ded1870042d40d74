import AmountProofs.Proofs.FilePaths
import AmountProofs.Proofs.JsonRoundTrip
import AmountProofs.Proofs.Utf8Text
import AmountProofs.Settings.File

/-!
What reading settings comes to.

A content is read as a text and the text as a JSON value; the members that are settings are taken from
the value, and what they state is checked. Each of these steps is inverted once, for its result and for
its failures. Most failures are reported as errors of settings that name the path (`Settings.Reports`).
Some that come from the content are not: `Settings.load_error` says which contents these are, and that
there are no others.
-/

namespace AmountProofs.Settings

/-- A failure is an error of settings whose reason names a path. -/
def Reports (path : String) (e : Failure) : Prop :=
  ∃ before after details, e = .settings (before ++ path ++ ": " ++ after) details

variable {d : Directory} {path : String} {nesting : Nat} {e : Failure} {v : Json} {s : Settings}
  {members : List (Text × Json)}

/-! ## From a file to a value -/

theorem reports_blame {words name : String} (cause : causeName? e = some name)
    (names : ∃ before, words = before ++ path) : Reports path (blame words e) := by
  obtain ⟨before, rfl⟩ := names
  refine ⟨before, "<" ++ name ++ ">", .null, ?_⟩
  have colon : ": <" = ": " ++ "<" := rfl
  simp only [blame, cause, colon, String.append_assoc]

/-- A file that cannot be read is reported, unless the path holds a null character. -/
theorem blame_of_read_eq_error (refused : d.read path = .error e) :
    Reports path (blame ("cannot read " ++ path) e) ∨
      e = .badValue .embeddedNull ∧ Char.ofNat 0 ∈ path.toList := by
  obtain rfl | rfl | rfl | rfl | null := Directory.read_eq_error refused
  case inr.inr.inr.inr => exact .inr null
  all_goals exact .inl (reports_blame rfl ⟨_, rfl⟩)

theorem readJson_of_read {content : Bytes} (read : d.read path = .ok content) :
    readJson d path nesting = match Text.ofUtf8? content with
      | none => .error .malformedUtf8
      | some t => (Json.parse t nesting).mapError (parseFailure path) := by
  rw [readJson, read]
  rfl

theorem readJson_of_text {content : Bytes} {t : Text} (read : d.read path = .ok content)
    (form : Text.utf8? t = some content) :
    readJson d path nesting = (Json.parse t nesting).mapError (parseFailure path) := by
  rw [readJson_of_read read, Text.ofUtf8?_eq_some_iff.2 form]

theorem readJson_eq_ok_iff :
    readJson d path nesting = .ok v ↔
      ∃ content t, d.read path = .ok content ∧ Text.utf8? t = some content ∧
        Json.parse t nesting = .ok v := by
  cases read : d.read path with
  | error cause =>
    refine iff_of_false (fun made => ?_) (by simp)
    rw [readJson, read] at made
    cases made
  | ok content =>
    simp only [readJson_of_read read, ← Text.ofUtf8?_eq_some_iff]
    cases decoded : Text.ofUtf8? content with
    | none => simp [decoded]
    | some t => simp [decoded, Outcome.mapError_eq_ok_iff]

/-- The content of a file is the UTF-8 form of a text that is no JSON value, for a given reason. -/
def Unparsed (d : Directory) (path : String) (nesting : Nat) (reason : Json.ReadFailure) : Prop :=
  ∃ content t, d.read path = .ok content ∧ Text.utf8? t = some content ∧
    Json.parse t nesting = .error reason

theorem readJson_of_unparsed {reason : Json.ReadFailure} (unparsed : Unparsed d path nesting reason) :
    readJson d path nesting = .error (parseFailure path reason) := by
  obtain ⟨content, t, read, form, parsed⟩ := unparsed
  rw [readJson_of_text read form, parsed]
  rfl

theorem reports_parseFailure : Reports path (parseFailure path .malformed) :=
  ⟨"cannot read ", "<JSONDecodeError>", .null, by simp [parseFailure, String.append_assoc]⟩

theorem readJson_eq_error (refused : readJson d path nesting = .error e) :
    Reports path e ∨ (e = .badValue .embeddedNull ∧ Char.ofNat 0 ∈ path.toList) ∨
      (e = .malformedUtf8 ∧ ∃ content, d.read path = .ok content ∧ Text.ofUtf8? content = none) ∨
      (e = .nestedTooDeeply ∧ Unparsed d path nesting .tooDeep) ∨
      ∃ got, e = .badValue (.tooManyDigitsRead got) ∧
        Unparsed d path nesting (.tooManyDigits got) := by
  cases read : d.read path with
  | error cause =>
    have told : blame ("cannot read " ++ path) cause = e := by
      rw [readJson, read] at refused
      cases refused
      rfl
    obtain reports | ⟨rfl, null⟩ := blame_of_read_eq_error read
    · exact .inl (told ▸ reports)
    · exact .inr (.inl ⟨told.symm, null⟩)
  | ok content =>
    cases decoded : Text.ofUtf8? content with
    | none =>
      rw [readJson_of_read read, decoded] at refused
      cases refused
      exact .inr (.inr (.inl ⟨rfl, content, rfl, decoded⟩))
    | some t =>
      have form := Text.ofUtf8?_eq_some_iff.1 decoded
      rw [readJson_of_text read form] at refused
      obtain ⟨reason, parsed, rfl⟩ := Outcome.mapError_eq_error_iff.1 refused
      cases reason with
      | malformed => exact .inl reports_parseFailure
      | tooDeep => exact .inr (.inr (.inr (.inl ⟨rfl, content, t, read, form, parsed⟩)))
      | tooManyDigits got =>
        exact .inr (.inr (.inr (.inr ⟨got, rfl, content, t, read, form, parsed⟩)))

/-! ## From a value to settings -/

theorem reports_settings {reason : String} {details : Json} (words : String)
    (same : reason = path ++ (": " ++ words)) : Reports path (.settings reason details) :=
  ⟨"", words, details, by rw [same, String.empty_append, String.append_assoc]⟩

theorem rejectOf_eq_error (refused : rejectOf path members = .error e) : Reports path e := by
  unfold rejectOf at refused
  split at refused
  · cases refused
  · cases refused
    exact reports_settings (rejectName ++ " must be a boolean") (by simp only [String.append_assoc])

theorem labelOf_eq_error (refused : labelOf path members = .error e) : Reports path e := by
  unfold labelOf at refused
  split at refused
  · cases refused
  · cases refused
    exact reports_settings (labelName ++ " must be a string") (by simp only [String.append_assoc])

theorem exists_text_of_labelOf {label : Json} (read : labelOf path members = .ok label) :
    ∃ t, label = .text t := by
  unfold labelOf at read
  split at read
  next t _ => exact ⟨t, (Except.ok.inj read).symm⟩
  next => cases read

theorem setAll_eq_error {log : LogSettings} (refused : log.setAll members = .error e) :
    e = .wrongType := by
  induction members generalizing log with
  | nil => cases refused
  | cons member rest ih =>
    obtain ⟨name, value⟩ := member
    rw [LogSettings.setAll] at refused
    split at refused
    · exact ih refused
    · cases refused
      rfl

theorem logOf_eq_error (refused : logOf path members = .error e) : Reports path e := by
  unfold logOf at refused
  split at refused
  · cases refused
  · obtain ⟨cause, wrong, rfl⟩ := Outcome.mapError_eq_error_iff.1 refused
    have kind : cause = .wrongType := by
      unfold LogSettings.ofJson at wrong
      split at wrong
      · exact setAll_eq_error wrong
      · cases wrong
        rfl
    subst kind
    exact reports_blame rfl ⟨"", String.empty_append.symm⟩

theorem labelProblems_eq_error_iff {label : Json} :
    labelProblems label = .error e ↔
      e = .unpairedSurrogate ∧ ∃ t : Text, label = .text t ∧ ¬t.Encodable := by
  cases label with
  | text t =>
    cases form : t.utf8? with
    | some b =>
      have encodable := (Text.utf8?_eq_some_iff.1 form).1
      simp [labelProblems, form, encodable]
    | none =>
      have surrogate : ¬t.Encodable := fun encodable => by
        rw [Text.utf8?_eq_some_iff.2 ⟨encodable, rfl⟩] at form
        cases form
      simp [labelProblems, form, surrogate, eq_comm]
  | _ => simp [labelProblems]

/-- A level that is none is told unless it cannot be shown. -/
theorem levelProblems_eq_error_iff {level : Json} :
    levelProblems level = .error e ↔ e = .badValue .tooManyDigits ∧ level.isShown = false := by
  unfold levelProblems
  cases shown : level.isShown with
  | true =>
    simp only [if_true]
    split_ifs <;> simp
  | false =>
    cases level with
    | text t => cases shown
    | _ => simp [eq_comm]

/-- What is wrong with settings can be said unless the level cannot be shown or the label has no UTF-8
form. -/
theorem problems_eq_error_iff :
    s.problems = .error e ↔
      (e = .badValue .tooManyDigits ∧ s.log.level.isShown = false) ∨
        s.log.level.isShown ∧ e = .unpairedSurrogate ∧
          ∃ t : Text, s.label = .text t ∧ ¬t.Encodable := by
  have ofLevel : (∃ told, levelProblems s.log.level = .ok told) ↔ s.log.level.isShown := by
    cases told : levelProblems s.log.level with
    | ok problems =>
      refine iff_of_true ⟨problems, rfl⟩ (Bool.not_eq_false _ ▸ fun unshown => ?_)
      rw [levelProblems_eq_error_iff.2 ⟨rfl, unshown⟩] at told
      cases told
    | error cause =>
      obtain ⟨-, unshown⟩ := levelProblems_eq_error_iff.1 told
      rw [unshown]
      exact iff_of_false nofun nofun
  rw [← labelProblems_eq_error_iff, ← levelProblems_eq_error_iff, ← ofLevel, problems,
    Outcome.bind_eq_error_iff]
  simp [Outcome.bind_eq_error_iff, pure, Except.pure]

theorem ofJson_eq_ok_iff :
    ofJson path v = .ok s ↔
      ∃ members, v = .object members ∧ rejectOf path members = .ok s.rejectNeutralKeys ∧
        labelOf path members = .ok s.label ∧ logOf path members = .ok s.log ∧ s.problems = .ok [] := by
  cases v with
  | object members =>
    simp only [ofJson, Outcome.bind_eq_ok_iff]
    constructor
    · rintro ⟨reject, rejected, label, labelled, log, logged, problems, checked, made⟩
      split at made
      next sound =>
        cases made
        rw [List.isEmpty_iff] at sound
        exact ⟨members, rfl, rejected, labelled, logged, sound ▸ checked⟩
      next => cases made
    · rintro ⟨_, ⟨⟩, rejected, labelled, logged, checked⟩
      exact ⟨_, rejected, _, labelled, _, logged, [], checked, rfl⟩
  | _ => refine iff_of_false nofun (by simp)

theorem ofJson_eq_error (refused : ofJson path v = .error e) :
    Reports path e ∨ ∃ members reject label log, v = .object members ∧
      rejectOf path members = .ok reject ∧ labelOf path members = .ok (.text label) ∧
      logOf path members = .ok log ∧
      (e = .badValue .tooManyDigits ∧ log.level.isShown = false ∨
        e = .unpairedSurrogate ∧ ¬label.Encodable) := by
  cases v with
  | object members =>
    simp only [ofJson, Outcome.bind_eq_error_iff] at refused
    obtain rejected | ⟨reject, rejected, unlabelled | ⟨label, labelled, refused⟩⟩ := refused
    · exact .inl (rejectOf_eq_error rejected)
    · exact .inl (labelOf_eq_error unlabelled)
    obtain unlogged | ⟨log, logged, unchecked | ⟨problems, checked, refused⟩⟩ := refused
    · exact .inl (logOf_eq_error unlogged)
    · obtain ⟨text, rfl⟩ := exists_text_of_labelOf labelled
      refine .inr ⟨members, reject, text, log, rfl, rejected, labelled, logged, ?_⟩
      obtain unshown | ⟨-, rfl, _, ⟨⟩, surrogate⟩ := problems_eq_error_iff.1 unchecked
      · exact .inl unshown
      · exact .inr ⟨rfl, surrogate⟩
    · split at refused
      · cases refused
      · cases refused
        exact .inl (reports_settings "invalid configuration" rfl)
  | _ =>
    cases refused
    exact .inl (reports_settings "top level must be an object" rfl)

/-! ## Levels that are read -/

theorem isShown_level_of_set? {log log' : LogSettings} {name : Text} {value : Json}
    (start : log.level.isShown) (shown : value.isShown) (set : log.set? name value = some log') :
    log'.level.isShown := by
  unfold LogSettings.set? at set
  split_ifs at set <;> cases set
  · exact shown
  all_goals exact start

theorem isShown_level_of_setAll {log log' : LogSettings} (start : log.level.isShown)
    (shown : ∀ m ∈ members, m.2.isShown) (set : log.setAll members = .ok log') :
    log'.level.isShown := by
  induction members generalizing log with
  | nil =>
    cases set
    exact start
  | cons member rest ih =>
    obtain ⟨name, value⟩ := member
    obtain ⟨first, shown⟩ := List.forall_mem_cons.1 shown
    rw [LogSettings.setAll] at set
    split at set
    next put => exact ih (isShown_level_of_set? start first put) shown set
    next => cases set

/-- A level is one of the values that were read, or the one that stands for a missing level. -/
theorem isShown_level_of_logOf {log : LogSettings} (shown : (Json.object members).isShown)
    (logged : logOf path members = .ok log) : log.level.isShown := by
  unfold logOf at logged
  split at logged
  next =>
    cases logged
    rfl
  next v found =>
    have inside : v.isShown :=
      Json.isShown_object_iff.1 shown (_, v) (Json.mem_of_member?_eq_some found)
    have taken := Outcome.mapError_eq_ok_iff.1 logged
    unfold LogSettings.ofJson at taken
    split at taken
    · exact isShown_level_of_setAll rfl (Json.isShown_object_iff.1 inside) taken
    · cases taken

theorem isShown_of_readJson (read : readJson d path nesting = .ok v) : v.isShown := by
  obtain ⟨_, _, -, -, parsed⟩ := readJson_eq_ok_iff.1 read
  exact Json.isShown_of_parse parsed

/-! ## From a file to settings -/

theorem load_fst : (load d path nesting).1 = readJson d path nesting >>= ofJson path := by
  unfold load
  cases readJson d path nesting >>= ofJson path <;> rfl

theorem load_eq_error_iff :
    (load d path nesting).1 = .error e ↔
      readJson d path nesting = .error e ∨
        ∃ v, readJson d path nesting = .ok v ∧ ofJson path v = .error e := by
  rw [load_fst, Outcome.bind_eq_error_iff]

theorem not_reports {e : Failure} (other : ∀ error, e ≠ .library error) : ¬Reports path e := by
  rintro ⟨before, after, details, rfl⟩
  exact other _ rfl

/-- The step that fails decides the failure. -/
theorem load_eq_error (refused : (load d path nesting).1 = .error e) :
    Reports path e ∨ (e = .badValue .embeddedNull ∧ Char.ofNat 0 ∈ path.toList) ∨
      (e = .malformedUtf8 ∧ ∃ content, d.read path = .ok content ∧ Text.ofUtf8? content = none) ∨
      (e = .nestedTooDeeply ∧ Unparsed d path nesting .tooDeep) ∨
      (∃ got, e = .badValue (.tooManyDigitsRead got) ∧
        Unparsed d path nesting (.tooManyDigits got)) ∨
      (e = .unpairedSurrogate ∧ ∃ members reject label log,
        readJson d path nesting = .ok (.object members) ∧
        rejectOf path members = .ok reject ∧ labelOf path members = .ok (.text label) ∧
        logOf path members = .ok log ∧ ¬label.Encodable) := by
  rcases load_eq_error_iff.1 refused with unread | ⟨v, read, refused⟩
  · rcases readJson_eq_error unread with reports | null | malformed | deep | long
    · exact .inl reports
    · exact .inr (.inl null)
    · exact .inr (.inr (.inl malformed))
    · exact .inr (.inr (.inr (.inl deep)))
    · exact .inr (.inr (.inr (.inr (.inl long))))
  · rcases ofJson_eq_error refused with reports | ⟨members, reject, label, log, rfl, steps⟩
    · exact .inl reports
    obtain ⟨rejected, labelled, logged, ⟨-, unshown⟩ | ⟨rfl, surrogate⟩⟩ := steps
    · -- The level could not be shown, but what was read can.
      rw [isShown_level_of_logOf (isShown_of_readJson read) logged] at unshown
      cases unshown
    · exact .inr (.inr (.inr (.inr (.inr
        ⟨rfl, members, reject, label, log, read, rejected, labelled, logged, surrogate⟩))))

/-- A file that holds the digits of an integer with too many of them is not read. -/
theorem load_of_long {n : Int} (long : Decimal.isShort n = false)
    (read : d.read path = .ok (Bytes.ofAscii (toString n))) :
    (load d path nesting).1 = .error (.badValue (.tooManyDigitsRead (Decimal.digitCount n))) := by
  have form : (Text.ofString (toString n)).utf8? = some (Bytes.ofAscii (toString n)) :=
    Json.utf8?_points (Json.ascii_toString n)
  exact load_eq_error_iff.2 (.inl (readJson_of_unparsed
    ⟨_, _, read, form, Json.parse_toString_of_long long nesting⟩))

/-- **How settings fail to be read.** Whatever room the caller leaves for nesting: a content that is no
text's UTF-8 form, nesting beyond that room, an integer of too many digits, and a label without a UTF-8
form are failures of their own, each exactly at such a content. Any other failure is an error of settings
that names the path, or the path holds a null character. -/
theorem load_error (d : Directory) (path : String) (nesting : Nat) :
    ((load d path nesting).1 = .error .malformedUtf8 ↔
      ∃ content, d.read path = .ok content ∧ ∀ t : Text, t.utf8? ≠ some content) ∧
    ((load d path nesting).1 = .error .nestedTooDeeply ↔ Unparsed d path nesting .tooDeep) ∧
    (∀ got, (load d path nesting).1 = .error (.badValue (.tooManyDigitsRead got)) ↔
      Unparsed d path nesting (.tooManyDigits got)) ∧
    ((load d path nesting).1 = .error .unpairedSurrogate ↔
      ∃ members reject label log, readJson d path nesting = .ok (.object members) ∧
        rejectOf path members = .ok reject ∧ labelOf path members = .ok (.text label) ∧
        logOf path members = .ok log ∧ ¬label.Encodable) ∧
    ∀ e, (load d path nesting).1 = .error e →
      e = .malformedUtf8 ∨ e = .nestedTooDeeply ∨ (∃ got, e = .badValue (.tooManyDigitsRead got)) ∨
        e = .unpairedSurrogate ∨ Reports path e ∨
        e = .badValue .embeddedNull ∧ Char.ofNat 0 ∈ path.toList := by
  refine ⟨⟨fun refused => ?_, ?_⟩, ⟨fun refused => ?_, fun deep => ?_⟩,
    fun got => ⟨fun refused => ?_, fun long => ?_⟩, ⟨fun refused => ?_, ?_⟩, fun e refused => ?_⟩
  · obtain reports | ⟨⟨⟩, -⟩ | ⟨-, content, read, undecoded⟩ | ⟨⟨⟩, -⟩ | ⟨_, ⟨⟩, -⟩ | ⟨⟨⟩, -⟩ :=
      load_eq_error refused
    · exact absurd reports (not_reports nofun)
    · exact ⟨content, read, Text.ofUtf8?_eq_none_iff.1 undecoded⟩
  · rintro ⟨content, read, formless⟩
    refine load_eq_error_iff.2 (.inl ?_)
    rw [readJson_of_read read, Text.ofUtf8?_eq_none_iff.2 formless]
  · obtain reports | ⟨⟨⟩, -⟩ | ⟨⟨⟩, -⟩ | ⟨-, deep⟩ | ⟨_, ⟨⟩, -⟩ | ⟨⟨⟩, -⟩ := load_eq_error refused
    · exact absurd reports (not_reports nofun)
    · exact deep
  · exact load_eq_error_iff.2 (.inl (readJson_of_unparsed deep))
  · obtain reports | ⟨⟨⟩, -⟩ | ⟨⟨⟩, -⟩ | ⟨⟨⟩, -⟩ | ⟨_, ⟨⟩, long⟩ | ⟨⟨⟩, -⟩ := load_eq_error refused
    · exact absurd reports (not_reports nofun)
    · exact long
  · exact load_eq_error_iff.2 (.inl (readJson_of_unparsed long))
  · obtain reports | ⟨⟨⟩, -⟩ | ⟨⟨⟩, -⟩ | ⟨⟨⟩, -⟩ | ⟨_, ⟨⟩, -⟩ | ⟨-, members, reject, label, log, steps⟩ :=
      load_eq_error refused
    · exact absurd reports (not_reports nofun)
    · exact ⟨members, reject, label, log, steps⟩
  · rintro ⟨members, reject, label, log, read, rejected, labelled, logged, surrogate⟩
    refine load_eq_error_iff.2 (.inr ⟨_, read, ?_⟩)
    have shown := isShown_level_of_logOf (isShown_of_readJson read) logged
    have unchecked : problems ⟨reject, .text label, log⟩ = .error .unpairedSurrogate :=
      problems_eq_error_iff.2 (.inr ⟨shown, rfl, label, rfl, surrogate⟩)
    simp only [ofJson, rejected, labelled, logged, unchecked, bind, Except.bind]
  · obtain reports | null | ⟨rfl, -⟩ | ⟨rfl, -⟩ | ⟨got, rfl, -⟩ | ⟨rfl, -⟩ := load_eq_error refused
    · exact .inr (.inr (.inr (.inr (.inl reports))))
    · exact .inr (.inr (.inr (.inr (.inr null))))
    · exact .inl rfl
    · exact .inr (.inl rfl)
    · exact .inr (.inr (.inl ⟨got, rfl⟩))
    · exact .inr (.inr (.inr (.inl rfl)))

/-- A file with the byte `0xFF` alone is such a content: the failure is no error of settings. -/
theorem load_of_no_text :
    (load [("config.json", [0xFF])] "config.json").1 = .error .malformedUtf8 ∧
      ¬Reports "config.json" .malformedUtf8 :=
  ⟨rfl, not_reports nofun⟩

end AmountProofs.Settings
