import DeliveryTrace.Proofs.Command.Writing

/-! # A failing run reports its first fault

A run loads its settings, then its logs or standard input, then the history that it reports on. Each
of these loads may be faulty. The main statement says that a run with the code of a failure has
written nothing and that its failure is the fault of the first faulty load; and that a faulty load
does make the run fail. Nothing is asked of the decoders of settings and histories.
-/

namespace DeliveryTrace

/-! ## Loads and their faults -/

/-- One step of loading. -/
inductive Load where
  /-- The settings, from the file that the command names if it names one. -/
  | settings (named? : Option Text)
  | log (path : Text)
  /-- Standard input. -/
  | input
  | history (path : Text)

/-- What a run loads, in order: its settings; its logs in the order in which they are named, or
standard input; the history if it reports on one. A format that the command names plays no part. -/
def Invocation.loads (invocation : Invocation) : List Load :=
  [.settings invocation.settings] ++
    (if invocation.logs = [] then [.input] else invocation.logs.map .log) ++
    match invocation.task with
    | .status path => [.history path]
    | .trace _ | .parse => []

/-- What is wrong with a settings file. -/
inductive Files.FaultySettings (files : Files) (decoders : Decoders) (path : Text) : Failure → Prop
  | unreadable (unread : (files path).text? = none) :
      FaultySettings files decoders path (.settingsUnreadable path)
  | invalid {content : Text} (read : (files path).text? = some content)
      (malformed : decoders.settings content = .error .malformed) :
      FaultySettings files decoders path (.settingsInvalid path)
  | unsupported {content : Text} {cause : Settings.UnsupportedFormat}
      (read : (files path).text? = some content)
      (refused : decoders.settings content = .error (.refused cause)) :
      FaultySettings files decoders path (.formatUnsupported path cause.setting)

namespace Surroundings

/-- The settings file of a run: the one that the command names, else the one that the environment
names, which must exist, else the first default location that exists. -/
inductive ReadsSettings (surroundings : Surroundings) : (named? : Option Text) → Text → Prop
  | named (path : Text) : ReadsSettings surroundings (some path) path
  | chosen {path : Text} (choice : surroundings.settingsChoice = some path)
      (present : (surroundings.files path).isPresent = true) : ReadsSettings surroundings none path
  | standard {path : Text} {before after : List Text}
      (unset : surroundings.settingsChoice = none)
      (located : defaultLocations = before ++ path :: after)
      (absent : ∀ earlier ∈ before, (surroundings.files earlier).isPresent = false)
      (present : (surroundings.files path).isPresent = true) : ReadsSettings surroundings none path

/-- A load that fails. -/
inductive Faulty (surroundings : Surroundings) (decoders : Decoders) : Load → Failure → Prop
  /-- The environment names a file that does not exist, and the command names none. -/
  | choice {path : Text} (choice : surroundings.settingsChoice = some path)
      (absent : (surroundings.files path).isPresent = false) :
      Faulty surroundings decoders (.settings none) (.settingsMissing path)
  | settings {named? : Option Text} {path : Text} {failure : Failure}
      (read : surroundings.ReadsSettings named? path)
      (faulty : surroundings.files.FaultySettings decoders path failure) :
      Faulty surroundings decoders (.settings named?) failure
  | logMissing {path : Text} (missing : surroundings.files path = .missing) :
      Faulty surroundings decoders (.log path) (.logUnopened path)
  | logLocked {path : Text} (locked : surroundings.files path = .locked) :
      Faulty surroundings decoders (.log path) (.logUnopened path)
  | logUnreadable {path : Text} (folder : surroundings.files path = .folder) :
      Faulty surroundings decoders (.log path) (.logUnreadable path)
  | input (unread : surroundings.input = none) :
      Faulty surroundings decoders .input .inputUnreadable
  | historyUnreadable {path : Text} (unread : (surroundings.files path).text? = none) :
      Faulty surroundings decoders (.history path) (.historyUnreadable path)
  | historyInvalid {path content : Text} {fault : Ron.Fault Empty}
      (read : (surroundings.files path).text? = some content)
      (invalid : decoders.history content = .error fault) :
      Faulty surroundings decoders (.history path) (.historyInvalid path)

/-- The fault of the first load that is faulty. -/
inductive FirstFault (surroundings : Surroundings) (decoders : Decoders) :
    List Load → Failure → Prop
  | here {load : Load} {loads : List Load} {failure : Failure}
      (faulty : surroundings.Faulty decoders load failure) :
      FirstFault surroundings decoders (load :: loads) failure
  | later {load : Load} {loads : List Load} {failure : Failure}
      (sound : ∀ other, ¬ surroundings.Faulty decoders load other)
      (first : FirstFault surroundings decoders loads failure) :
      FirstFault surroundings decoders (load :: loads) failure

variable {surroundings : Surroundings} {decoders : Decoders} {load : Load}
  {loads first rest : List Load} {failure : Failure}

theorem firstFault_cons_iff :
    surroundings.FirstFault decoders (load :: loads) failure ↔
      surroundings.Faulty decoders load failure ∨
        (∀ other, ¬ surroundings.Faulty decoders load other) ∧
          surroundings.FirstFault decoders loads failure := by
  constructor
  · intro fault
    cases fault with
    | here faulty => exact .inl faulty
    | later sound first => exact .inr ⟨sound, first⟩
  · rintro (faulty | ⟨sound, first⟩)
    · exact .here faulty
    · exact .later sound first

theorem not_firstFault_nil : ¬ surroundings.FirstFault decoders [] failure := nofun

theorem firstFault_singleton_iff :
    surroundings.FirstFault decoders [load] failure ↔
      surroundings.Faulty decoders load failure := by
  simp only [firstFault_cons_iff, not_firstFault_nil, and_false, or_false]

theorem firstFault_append_iff :
    surroundings.FirstFault decoders (first ++ rest) failure ↔
      surroundings.FirstFault decoders first failure ∨
        (∀ other, ¬ surroundings.FirstFault decoders first other) ∧
          surroundings.FirstFault decoders rest failure := by
  induction first with
  | nil => simp only [List.nil_append, not_firstFault_nil, not_false_iff, implies_true, true_and,
      false_or]
  | cons load first ih =>
      simp only [List.cons_append, firstFault_cons_iff, ih, not_or, forall_and]
      by_cases sound : ∀ other, ¬ surroundings.Faulty decoders load other
      · simp only [sound, not_false_iff, implies_true, true_and, false_or]
      · simp only [sound, false_and, or_false]

/-! ## Loading fails by a fault -/

theorem settingsAt_eq_error_iff {files : Files} {path : Text} :
    files.settingsAt decoders path = .error failure ↔
      files.FaultySettings decoders path failure := by
  unfold Files.settingsAt
  constructor
  · intro failed
    split at failed
    next unread =>
      cases failed
      exact .unreadable unread
    next content read =>
      split at failed
      next => cases failed
      next malformed =>
        cases failed
        exact .invalid read malformed
      next cause refused =>
        cases failed
        exact .unsupported read refused
  · intro fault
    cases fault with
    | unreadable unread => rw [unread]
    | invalid read malformed => simp only [read, malformed]
    | unsupported read refused => simp only [read, refused]

/-- Only the file that applies is looked into. -/
theorem ReadsSettings.settings_eq {named? : Option Text} {path : Text}
    (read : surroundings.ReadsSettings named? path) :
    surroundings.files.settings decoders surroundings.settingsChoice named? =
      surroundings.files.settingsAt decoders path := by
  cases read with
  | named => rfl
  | chosen choice present =>
      have found : surroundings.files.findSettings (some path) = .ok (some path) := if_pos present
      rw [choice, Files.settings, found]
      rfl
  | @standard path before after unset located absent present =>
      have first : (defaultLocations.find? fun place => (surroundings.files place).isPresent) =
          some path := by
        refine List.find?_eq_some_iff_append.mpr ⟨present, before, after, located, ?_⟩
        intro earlier member
        rw [absent earlier member]
        rfl
      rw [unset, Files.settings, Files.findSettings, first]
      rfl

/-- Either a file is read, or the environment names one that does not exist, or nothing is named and
no default location exists. -/
theorem settings_cases (surroundings : Surroundings) (named? : Option Text) :
    (∃ path, surroundings.ReadsSettings named? path) ∨
      (∃ path, named? = none ∧ surroundings.settingsChoice = some path ∧
        (surroundings.files path).isPresent = false) ∨
      surroundings.files.settings decoders surroundings.settingsChoice named? = .ok {} := by
  cases named? with
  | some path => exact .inl ⟨path, .named path⟩
  | none =>
      cases choice : surroundings.settingsChoice with
      | some path =>
          by_cases present : (surroundings.files path).isPresent = true
          · exact .inl ⟨path, .chosen choice present⟩
          · exact .inr (.inl ⟨path, rfl, rfl, Bool.eq_false_iff.mpr present⟩)
      | none =>
          cases first : defaultLocations.find? fun path => (surroundings.files path).isPresent with
          | some path =>
              obtain ⟨present, before, after, located, absent⟩ :=
                List.find?_eq_some_iff_append.mp first
              have earlierAbsent : ∀ earlier ∈ before,
                  (surroundings.files earlier).isPresent = false := by
                intro earlier member
                exact Bool.not_eq_eq_eq_not.mp (absent earlier member)
              exact .inl ⟨path, .standard choice located earlierAbsent present⟩
          | none =>
              refine .inr (.inr ?_)
              rw [Files.settings, Files.findSettings, first]
              rfl

theorem settings_eq_error_iff {named? : Option Text} :
    surroundings.files.settings decoders surroundings.settingsChoice named? = .error failure ↔
      surroundings.Faulty decoders (.settings named?) failure := by
  constructor
  · intro failed
    rcases surroundings.settings_cases named? with
      ⟨path, read⟩ | ⟨path, rfl, choice, absent⟩ | unnamed
    · exact .settings read (settingsAt_eq_error_iff.mp (read.settings_eq.symm.trans failed))
    · have missing : surroundings.files.findSettings (some path) = .error (.settingsMissing path) :=
        if_neg (Bool.eq_false_iff.mp absent)
      rw [choice, Files.settings, missing] at failed
      cases failed
      exact .choice choice absent
    · cases unnamed.symm.trans failed
  · intro fault
    cases fault with
    | choice choice absent =>
        rw [choice, Files.settings, Files.findSettings, if_neg (Bool.eq_false_iff.mp absent)]
        rfl
    | settings read faulty => exact read.settings_eq.trans (settingsAt_eq_error_iff.mpr faulty)

theorem addLog_eq_error_iff (window : Window) {path : Text} :
    surroundings.files.addLog window path = .error failure ↔
      surroundings.Faulty decoders (.log path) failure := by
  unfold Files.addLog
  constructor
  · intro failed
    split at failed
    next missing =>
      cases failed
      exact .logMissing missing
    next locked =>
      cases failed
      exact .logLocked locked
    next folder =>
      cases failed
      exact .logUnreadable folder
    next => cases failed
  · intro fault
    cases fault with
    | logMissing missing => rw [missing]
    | logLocked locked => rw [locked]
    | logUnreadable folder => rw [folder]

theorem history_eq_error_iff {path : Text} :
    surroundings.files.history decoders path = .error failure ↔
      surroundings.Faulty decoders (.history path) failure := by
  unfold Files.history
  constructor
  · intro failed
    split at failed
    next unread =>
      cases failed
      exact .historyUnreadable unread
    next content read =>
      split at failed
      next => cases failed
      next fault invalid =>
        cases failed
        exact .historyInvalid read invalid
  · intro fault
    cases fault with
    | historyUnreadable unread => rw [unread]
    | historyInvalid read invalid => simp only [read, invalid]

/-! ## One load after the other -/

/-- Loading fails just by the first fault of these loads. -/
def FailsAt {α : Type} (surroundings : Surroundings) (decoders : Decoders) (loads : List Load)
    (loaded : Except Failure α) : Prop :=
  ∀ failure, loaded = .error failure ↔ surroundings.FirstFault decoders loads failure

theorem failsAt_singleton {α : Type} {loaded : Except Failure α}
    (fails : ∀ failure, loaded = .error failure ↔ surroundings.Faulty decoders load failure) :
    surroundings.FailsAt decoders [load] loaded :=
  fun failure => (fails failure).trans firstFault_singleton_iff.symm

/-- What stands behind a load that failed does not count. -/
theorem FailsAt.append_of_error {α : Type} {loaded : Except Failure α} {raised : Failure}
    (stage : surroundings.FailsAt decoders first loaded) (failed : loaded = .error raised) :
    surroundings.FirstFault decoders (first ++ rest) failure ↔ raised = failure := by
  rw [firstFault_append_iff, ← stage failure, failed]
  constructor
  · rintro (⟨⟨⟩⟩ | ⟨sound, _⟩)
    · rfl
    · exact absurd ((stage raised).mp failed) (sound raised)
  · rintro rfl
    exact .inl rfl

theorem FailsAt.append_of_ok {α : Type} {loaded : Except Failure α} {value : α}
    (stage : surroundings.FailsAt decoders first loaded) (succeeded : loaded = .ok value) :
    surroundings.FirstFault decoders (first ++ rest) failure ↔
      surroundings.FirstFault decoders rest failure := by
  have sound : ∀ other, ¬ surroundings.FirstFault decoders first other := by
    intro other fault
    cases succeeded.symm.trans ((stage other).mpr fault)
  rw [firstFault_append_iff]
  simp only [sound, not_false_iff, implies_true, true_and, false_or]

theorem failsAt_foldlM_addLog (window : Window) (paths : List Text) :
    surroundings.FailsAt decoders (paths.map .log)
      (paths.foldlM surroundings.files.addLog window) := by
  induction paths generalizing window with
  | nil => exact fun _ => iff_of_false nofun not_firstFault_nil
  | cons path paths ih =>
      intro failure
      have stage : surroundings.FailsAt decoders [.log path]
          (surroundings.files.addLog window path) :=
        failsAt_singleton fun _ => addLog_eq_error_iff window
      rw [List.foldlM_cons, List.map_cons, ← List.singleton_append]
      cases added : surroundings.files.addLog window path with
      | error raised =>
          rw [stage.append_of_error added]
          exact iff_of_eq (Except.error.injEq raised failure)
      | ok longer =>
          rw [stage.append_of_ok added]
          exact ih longer failure

theorem failsAt_window (limit : Option Nat) (logs : List Text) :
    surroundings.FailsAt decoders (if logs = [] then [.input] else logs.map .log)
      (surroundings.window limit logs) := by
  unfold window
  by_cases unnamed : logs = []
  · subst unnamed
    apply failsAt_singleton
    intro failure
    cases given : surroundings.input with
    | some input =>
        refine iff_of_false nofun ?_
        intro fault
        cases fault with
        | input unread => cases given.symm.trans unread
    | none =>
        constructor
        · rintro ⟨⟩
          exact .input given
        · rintro ⟨⟩
          exact if_pos rfl
  · have read (input : List UInt8) : surroundings.FailsAt decoders (logs.map .log)
        (surroundings.files.window input limit logs) := by
      rw [Files.window, if_neg unnamed]
      exact failsAt_foldlM_addLog _ logs
    rw [if_neg unnamed]
    cases surroundings.input with
    | some input => exact read input
    | none =>
        simp only [if_neg unnamed]
        exact read []

/-! ## Runs -/

/-- A run fails just by the first fault of these loads, and then it has written nothing. -/
structure StopsAt (surroundings : Surroundings) (decoders : Decoders) (loads : List Load)
    (action : Run Unit) : Prop where
  fails : ∀ failure,
    action.result.outcome = .failed failure ↔ surroundings.FirstFault decoders loads failure
  silent : ∀ failure, action.result.outcome = .failed failure → action.result.lines = []

theorem StopsAt.result_eq {action : Run Unit} (stops : surroundings.StopsAt decoders loads action)
    (fault : surroundings.FirstFault decoders loads failure) :
    action.result = ⟨[], .failed failure⟩ := by
  have failed := (stops.fails failure).mpr fault
  rw [← stops.silent failure failed, ← failed]

theorem stopsAt_of_writes {action : Run Unit} {lines : List Text} (writes : action.Writes lines) :
    surroundings.StopsAt decoders [] action := by
  have finished : action.result.outcome = .done := by
    unfold Run.result
    rw [writes []]
  constructor
  · intro failure
    rw [finished]
    exact iff_of_false nofun not_firstFault_nil
  · intro failure failed
    cases finished.symm.trans failed

theorem FailsAt.bind {α : Type} {loaded : Except Failure α} {next : α → Run Unit}
    (stage : surroundings.FailsAt decoders first loaded)
    (later : ∀ value, loaded = .ok value → surroundings.StopsAt decoders rest (next value)) :
    surroundings.StopsAt decoders (first ++ rest) (do let value ← loaded; next value) := by
  cases same : loaded with
  | error raised =>
      constructor
      · intro failure
        rw [stage.append_of_error same]
        exact iff_of_eq (Outcome.failed.injEq raised failure)
      · exact fun _ _ => rfl
  | ok value =>
      obtain ⟨fails, silent⟩ := later value same
      exact ⟨fun failure => (fails failure).trans (stage.append_of_ok same).symm, silent⟩

/-- A task loads before it writes, and what it writes cannot fail. -/
theorem stopsAt_perform (invocation : Invocation) :
    surroundings.StopsAt decoders invocation.loads (surroundings.perform decoders invocation) := by
  obtain ⟨named?, format, logs, output, task⟩ := invocation
  unfold Invocation.loads perform
  rw [List.append_assoc]
  refine (failsAt_singleton fun _ => settings_eq_error_iff).bind ?_
  intro settings _
  refine (failsAt_window _ logs).bind ?_
  intro window _
  cases task with
  | trace identifiers => exact stopsAt_of_writes (writes_trace _ window _ output identifiers)
  | status path =>
      have stage : surroundings.FailsAt decoders [.history path]
          (surroundings.files.history decoders path) :=
        failsAt_singleton fun _ => history_eq_error_iff
      -- Nothing is loaded behind the history.
      change surroundings.StopsAt decoders ([.history path] ++ []) _
      refine stage.bind ?_
      intro history _
      exact stopsAt_of_writes (writes_status _ window output history)
  | parse => exact stopsAt_of_writes (writes_parse _ window _ output)

/-! ## Command lines -/

theorem exists_failure_of_exitCode {outcome : Outcome} (code : outcome.exitCode = 1) :
    ∃ failure, outcome = .failed failure := by
  cases outcome with
  | done => cases code
  | failed failure => exact ⟨failure, rfl⟩
  | rejected error => cases code

theorem run_of_accepted {words : List Text} {invocation : Invocation}
    (accepted : Request.ofArguments words = .ok (.run invocation)) :
    surroundings.run decoders words = (surroundings.perform decoders invocation).result := by
  rw [run, accepted]

theorem accepted_of_failed {words : List Text}
    (failed : (surroundings.run decoders words).outcome = .failed failure) :
    ∃ invocation, Request.ofArguments words = .ok (.run invocation) := by
  unfold run at failed
  split at failed
  next => cases failed
  next => cases failed
  next => cases failed
  next invocation accepted => exact ⟨invocation, accepted⟩

/-- **A failing run writes nothing and reports its first fault**, whatever its decoders accept. A
run that answers with the code of a failure has written no line, its command line was accepted, and
its failure is the fault of the first faulty load. A run with a faulty load does end so, whatever
else the command line says. -/
theorem run_firstFault (decoders : Decoders) :
    (∀ (surroundings : Surroundings) (words : List Text),
      (surroundings.run decoders words).outcome.exitCode = 1 →
      (surroundings.run decoders words).lines = [] ∧
        ∃ invocation failure, Request.ofArguments words = .ok (.run invocation) ∧
          (surroundings.run decoders words).outcome = .failed failure ∧
          surroundings.FirstFault decoders invocation.loads failure) ∧
    ∀ (surroundings : Surroundings) (words : List Text) (invocation : Invocation)
      (failure : Failure),
      Request.ofArguments words = .ok (.run invocation) →
      surroundings.FirstFault decoders invocation.loads failure →
      surroundings.run decoders words = ⟨[], .failed failure⟩ := by
  constructor
  · intro surroundings words code
    obtain ⟨failure, failed⟩ := exists_failure_of_exitCode code
    obtain ⟨invocation, accepted⟩ := accepted_of_failed failed
    have stops : surroundings.StopsAt decoders invocation.loads
        (surroundings.perform decoders invocation) :=
      stopsAt_perform invocation
    rw [run_of_accepted accepted] at failed ⊢
    exact ⟨stops.silent failure failed, invocation, failure, accepted, failed,
      (stops.fails failure).mp failed⟩
  · intro surroundings words invocation failure accepted fault
    rw [run_of_accepted accepted]
    exact (stopsAt_perform invocation).result_eq fault

open Arguments in
/-- A command line with a format, two logs and a history, read option by option. -/
theorem ofArguments_twoLogs :
    Request.ofArguments
        (["--mta", "postfix", "-l", "a", "-l", "b", "status", "--history", "h"].map String.toList) =
      .ok (.run ⟨none, some .postfixLog, [['a'], ['b']], .text, .status ['h']⟩) := by
  have format (rest : List Text) :
      options none {} ("--mta".toList :: "postfix".toList :: rest) =
        options none { format := some .postfixLog } rest := by
    rw [options.eq_def]
    rfl
  have log (given : Given) (name : Char) (named : name = 'a' ∨ name = 'b') (rest : List Text) :
      options none given ("-l".toList :: [name] :: rest) =
        options none { given with logs := given.logs ++ [[name]] } rest := by
    rw [options.eq_def]
    rcases named with rfl | rfl <;> rfl
  have task (given : Given) (rest : List Text) :
      options none given ("status".toList :: rest) =
        .ok (.atWord (.ok given) "status".toList rest) := by
    rw [options.eq_def]
    rfl
  have history : options (some .status) {} ["--history".toList, "h".toList] =
      .ok (.complete { history := some ['h'] }) := by
    rw [options.eq_def]
    rfl
  have logs : options none { format := some .postfixLog }
      (["-l", "a", "-l", "b", "status", "--history", "h"].map String.toList) =
      .ok (.atWord (.ok { format := some .postfixLog, logs := [['a'], ['b']] }) "status".toList
        ["--history".toList, "h".toList]) := by
    refine (log _ 'a' (.inl rfl) _).trans ?_
    refine (log _ 'b' (.inr rfl) _).trans ?_
    exact task _ _
  rw [Request.ofArguments, List.map_cons, List.map_cons, format, logs]
  change taskRequest _ .status _ = _
  rw [taskRequest, history]
  rfl

/-- A log that is missing behind one that can be read, with a history that is missing too; and a
missing file that the environment names, with a file at each default location. -/
theorem run_firstFault_missing :
    let words := ["--mta", "postfix", "-l", "a", "-l", "b", "status", "--history", "h"].map
      String.toList
    let unlogged : Surroundings :=
      { files := fun path => if path = ['a'] then .file [] else .missing
        input := none, settingsChoice := none, logLevel := none, now := ⟨0, 0⟩ }
    let misled : Surroundings :=
      { files := fun path => if path = ['c'] then .missing else .file "()".toUTF8.toList
        input := none, settingsChoice := some ['c'], logLevel := none, now := ⟨0, 0⟩ }
    unlogged.run .ron words = ⟨[], .failed (.logUnopened ['b'])⟩ ∧
      misled.run .ron words = ⟨[], .failed (.settingsMissing ['c'])⟩ ∧
      (misled.run .ron words).lines = [] := by
  intro words unlogged misled
  obtain ⟨silent, reports⟩ := run_firstFault .ron
  have accepted : Request.ofArguments words =
      .ok (.run ⟨none, some .postfixLog, [['a'], ['b']], .text, .status ['h']⟩) :=
    ofArguments_twoLogs
  have unloggedFault : unlogged.FirstFault .ron
      [.settings none, .log ['a'], .log ['b'], .history ['h']] (.logUnopened ['b']) := by
    refine .later ?_ (.later ?_ (.here (.logMissing rfl)))
    · intro other fault
      cases settings_eq_error_iff.mpr fault
    · intro other fault
      cases (addLog_eq_error_iff {}).mpr fault
  have misledFault : misled.FirstFault .ron
      [.settings none, .log ['a'], .log ['b'], .history ['h']] (.settingsMissing ['c']) :=
    .here (.choice rfl rfl)
  have failed : misled.run .ron words = ⟨[], .failed (.settingsMissing ['c'])⟩ :=
    reports misled words _ _ accepted misledFault
  refine ⟨reports unlogged words _ _ accepted unloggedFault, failed, ?_⟩
  exact (silent misled words (by rw [failed]; rfl)).1

end Surroundings

end DeliveryTrace
