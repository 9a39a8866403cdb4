import Sequencer.Proofs.LoggerTree
import Sequencer.Proofs.Records

/-!
# Events of runs

Loggers are built and events are logged, in any order and for any runs. An event of a run whose
logger takes it goes to the console and the file of that logger, and then to those of the loggers
that are above it in the tree of dotted names. So, if it has a line at all, it is written once iff
no other run that was built has a logger above (`event_once_iff`), as it is when no run's name is
the first part of another's up to a dot.
-/

namespace Sequencer.Log

open Text

/-! ## Histories -/

/-- What is done with loggers: one is built, or an event is logged. -/
inductive Act
  | build (runId levelName : String) (file : Option Path)
  | event (now : Moment) (runId message : String) (fields : List (String × Value))

/-- The act builds the logger of the run, with a level that there is. -/
def Act.Builds (runId : String) (act : Act) : Prop :=
  ∃ levelName file, act = .build runId levelName file ∧
    Level.ofName? (uppered levelName) ≠ none

/-- The logs after an act. An event that is refused changes nothing. -/
def Logs.perform (logs : Logs) : Act → Logs
  | .build runId levelName file => (logs.build runId levelName file).2
  | .event now runId message fields =>
    match logs.event now runId message fields with
    | .ok logs' => logs'
    | .error _ => logs

/-- The logs after acts. -/
def Logs.run (logs : Logs) (acts : List Act) : Logs := acts.foldl Logs.perform logs

/-- The logs of a process that begins. -/
def Logs.start (files : FileTree) : Logs := ⟨.none, files, []⟩

/-- An event that is not refused is a record that is written, or nothing. -/
theorem Logs.event_eq_ok {logs logs' : Logs} {now : Moment} {runId message : String}
    {fields : List (String × Value)} (h : logs.event now runId message fields = .ok logs') :
    logs' = logs ∨ logs' = logs.write now (runName runId) ⟨.info, message, fields, none⟩ := by
  unfold Logs.event at h
  split at h
  · cases h
  · split at h
    · exact .inl (Except.ok.inj h).symm
    · split at h
      · cases h
      · exact .inr (Except.ok.inj h).symm

/-- The logs after acts: the loggers with outputs are those that were built, and the files among
their outputs are there. -/
structure Logs.Sound (acts : List Act) (logs : Logs) : Prop where
  outputs : ∀ name logger, logs.loggers.find? name = some logger → logger.outputs ≠ [] →
    ∃ place, logger.outputs = outputsWith place ∧ (∀ p, place = some p → logs.files.HasFile p) ∧
      ∃ runId, name = runName runId ∧ ∃ act ∈ acts, act.Builds runId
  built : ∀ runId, (∃ act ∈ acts, act.Builds runId) →
    ∃ logger, logs.loggers.find? (runName runId) = some logger ∧ logger.outputs ≠ []

namespace Logs.Sound

variable {acts : List Act} {logs : Logs}

theorem start (files : FileTree) : Sound [] (Logs.start files) where
  outputs _ _ h := by cases h
  built _ h := by simp at h

/-- The files of a logger that is passed are there. -/
theorem hasFile (h : Sound acts logs) {name : String} {p : Place}
    (hp : .file p ∈ logs.loggers.outputs name) : logs.files.HasFile p := by
  obtain ⟨logger, hlogger, hout⟩ := List.mem_flatMap.mp hp
  obtain ⟨above, -, hfind⟩ := (Loggers.mem_upward_iff (Nat.lt_succ_self _)).mp hlogger
  obtain ⟨place, hplace, hfile, -⟩ := h.outputs above logger hfind (List.ne_nil_of_mem hout)
  rw [hplace, file_mem_outputsWith] at hout
  exact hfile p hout

/-- Sound logs stay so while the loggers stay and no file goes. -/
theorem of_files (h : Sound acts logs) {logs' : Logs} (hloggers : logs'.loggers = logs.loggers)
    (hfiles : ∀ p, logs.files.HasFile p → logs'.files.HasFile p) : Sound acts logs' where
  outputs name logger hfind hout := by
    rw [hloggers] at hfind
    obtain ⟨place, hplace, hfile, hrun⟩ := h.outputs name logger hfind hout
    exact ⟨place, hplace, fun p hp => hfiles p (hfile p hp), hrun⟩
  built runId hrun := by
    rw [hloggers]
    exact h.built runId hrun

/-- More acts are no harm if they build nothing new. -/
theorem append_of_not_builds (h : Sound acts logs) (act : Act)
    (hact : ∀ runId, ¬ act.Builds runId) : Sound (acts ++ [act]) logs where
  outputs name logger hfind hout := by
    obtain ⟨place, hplace, hfile, runId, hname, other, hother, hbuilds⟩ :=
      h.outputs name logger hfind hout
    exact ⟨place, hplace, hfile, runId, hname, other, List.mem_append_left _ hother, hbuilds⟩
  built runId hrun := by
    obtain ⟨other, hother, hbuilds⟩ := hrun
    rcases List.mem_append.mp hother with hother | hother
    · exact h.built runId ⟨other, hother, hbuilds⟩
    · rw [List.mem_singleton.mp hother] at hbuilds
      exact absurd hbuilds (hact runId)

/-- A logger that is put back as it was, or made without outputs, is no harm. -/
theorem put_old (h : Sound acts logs) (runId : String) :
    Sound acts (logs.put runId ((logs.loggers.find? (runName runId)).getD ⟨.unset, []⟩)) where
  outputs name logger hfind hout := by
    rcases Loggers.find?_put_eq_some_iff.mp hfind with ⟨rfl, rfl⟩ | ⟨-, hfind⟩
    · cases hold : logs.loggers.find? (runName runId) with
      | none =>
        rw [hold] at hout
        exact absurd rfl hout
      | some old =>
        rw [hold] at hout
        exact h.outputs _ old hold hout
    · exact h.outputs name logger hfind hout
  built other hrun := by
    obtain ⟨logger, hfind, hout⟩ := h.built other hrun
    exact ⟨logger, Loggers.find?_put_back hfind, hout⟩

theorem build (h : Sound acts logs) (runId levelName : String) (file : Option Path) :
    Sound (acts ++ [.build runId levelName file]) (logs.build runId levelName file).2 := by
  rcases logs.build_cases runId levelName file with
    ⟨hlevel, hbuild⟩ | ⟨level, files, place, hlevel, hbuild, -, hplace, hkept⟩
  · rw [hbuild]
    refine (h.put_old runId).append_of_not_builds _ ?_
    rintro other ⟨levelName', file', heq, hknown⟩
    cases heq
    exact hknown hlevel
  rw [hbuild]
  constructor
  case outputs =>
    intro name logger hfind hout
    rcases Loggers.find?_put_eq_some_iff.mp hfind with ⟨rfl, rfl⟩ | ⟨-, hfind⟩
    · refine ⟨place, rfl, hplace, runId, rfl, _, by simp, levelName, file, rfl, ?_⟩
      rw [hlevel]
      nofun
    · obtain ⟨place', houtputs, hfile, other, hother, act, hact, hbuilds⟩ :=
        h.outputs name logger hfind hout
      exact ⟨place', houtputs, fun p hp => hkept p (hfile p hp), other, hother, act,
        List.mem_append_left _ hact, hbuilds⟩
  case built =>
    rintro other ⟨act, hact, hbuilds⟩
    by_cases hname : runName other = runName runId
    · rw [hname]
      exact ⟨⟨level, outputsWith place⟩, Loggers.find?_put_self .., nofun⟩
    · rcases List.mem_append.mp hact with hact | hact
      · obtain ⟨logger, hfind, hout⟩ := h.built other ⟨act, hact, hbuilds⟩
        exact ⟨logger, (Loggers.find?_put_of_ne _ _ hname).trans hfind, hout⟩
      · rw [List.mem_singleton.mp hact] at hbuilds
        obtain ⟨levelName', file', heq, -⟩ := hbuilds
        cases heq
        exact absurd rfl hname

theorem perform (h : Sound acts logs) (act : Act) : Sound (acts ++ [act]) (logs.perform act) := by
  cases act with
  | build runId levelName file => exact h.build runId levelName file
  | event now runId message fields =>
    have hnothing := h.append_of_not_builds (.event now runId message fields)
      fun other hbuilds => by
        obtain ⟨levelName, file, heq, -⟩ := hbuilds
        cases heq
    unfold Logs.perform
    dsimp only
    split
    · rename_i logs' hevent
      rcases event_eq_ok hevent with rfl | rfl
      · exact hnothing
      · exact hnothing.of_files (quiet_write ..).loggers fun p hp => hasFile_write hp ..
    · exact hnothing

theorem run (h : Sound acts logs) (more : List Act) : Sound (acts ++ more) (logs.run more) := by
  induction more generalizing acts logs with
  | nil => rwa [List.append_nil]
  | cons act rest ih =>
    have hnext := ih (h.perform act)
    rwa [List.append_assoc] at hnext

end Logs.Sound

/-! ## The logger that was built last -/

theorem Logs.find?_build (logs : Logs) {runId levelName : String} {level : Level}
    {file : Option Path} (hlevel : Level.ofName? (uppered levelName) = some level) :
    (logs.build runId levelName file).2.loggers.find? (runName runId) =
      some ⟨level, outputsWith (opened (logs.build runId levelName file) file)⟩ := by
  rcases logs.build_cases runId levelName file with
    ⟨hnone, -⟩ | ⟨level', files, place, hlevel', hbuild, hopened, -⟩
  · rw [hlevel] at hnone
    cases hnone
  · obtain rfl := Option.some.inj (hlevel.symm.trans hlevel')
    rw [hopened, hbuild]
    exact Loggers.find?_put_self ..

/-- A logger stays as long as no other one is built for its run. -/
theorem Logs.find?_run {logs : Logs} {runId : String} {logger : Logger} {acts : List Act}
    (hfind : logs.loggers.find? (runName runId) = some logger)
    (hacts : ∀ act ∈ acts, ¬ act.Builds runId) :
    (logs.run acts).loggers.find? (runName runId) = some logger := by
  induction acts generalizing logs with
  | nil => exact hfind
  | cons act rest ih =>
    refine ih ?_ fun act hact => hacts act (List.mem_cons_of_mem _ hact)
    have hact := hacts act List.mem_cons_self
    cases act with
    | build other levelName file =>
      show (logs.build other levelName file).2.loggers.find? (runName runId) = some logger
      rcases logs.build_cases other levelName file with
        ⟨-, hbuild⟩ | ⟨level, files, place, hlevel, hbuild, -⟩
      · rw [hbuild]
        exact Loggers.find?_put_back hfind
      · rw [hbuild]
        by_cases hname : runName runId = runName other
        · refine absurd ⟨levelName, file, ?_, by rw [hlevel]; nofun⟩ hact
          rw [runName_injective hname]
        · exact (Loggers.find?_put_of_ne _ _ hname).trans hfind
    | event now other message fields =>
      unfold Logs.perform
      dsimp only
      split
      · rename_i logs' hevent
        rcases event_eq_ok hevent with rfl | rfl
        · exact hfind
        · rw [(quiet_write ..).loggers]
          exact hfind
      · exact hfind

/-! ## Writing once -/

/-- The line was written once to the console, once to the file at the place if there is one, and
nowhere else. -/
structure Logs.Once (logs logs' : Logs) (line : String) (place : Option Place) : Prop where
  console : logs'.console = logs.console ++ [line]
  file : ∀ p, place = some p →
    logs.files.HasFile p ∧ logs'.files.get? p = addLine line (logs.files.get? p)
  others : ∀ p, place ≠ some p → logs'.files.get? p = logs.files.get? p

theorem Loggers.takes_info {ls : Loggers} {name : String} {own : Logger}
    (hfind : ls.find? name = some own) (hlevel : own.level = .debug ∨ own.level = .info) :
    ls.takes name .info = true := by
  obtain ⟨rest, hpassed, -⟩ := exists_passed_eq hfind
  unfold takes threshold
  rw [hpassed, List.find?_cons_of_pos (by rcases hlevel with h | h <;> simp [h])]
  rcases hlevel with h | h <;> simp only [h] <;> rfl

section

variable {logs : Logs} {runId : String} {fields : List (String × Value)}

/-- A taken event is refused over a field whose name is not its own. -/
theorem Logs.exists_event_eq_error (htakes : logs.loggers.takes (runName runId) .info = true)
    (hname : ∃ field ∈ fields, field.1 ∈ "logger" :: reservedFields) (now : Moment)
    (message : String) : ∃ fault, logs.event now runId message fields = .error fault := by
  obtain ⟨field, hfield, hname⟩ := hname
  have hmem : field.1 ∈ fields.map (·.1) := List.mem_map_of_mem hfield
  unfold Logs.event
  rw [htakes]
  split
  · exact ⟨_, rfl⟩
  · rename_i hgiven
    rw [if_neg (by decide)]
    split
    · exact ⟨_, rfl⟩
    · rename_i hfree
      have hother := List.find?_eq_none.mp hgiven field.1 hmem
      have hunreserved := List.find?_eq_none.mp hfree field.1 hmem
      simp only [Bool.or_eq_true, decide_eq_true_eq, not_or] at hother
      rcases List.mem_cons.mp hname with hlogger | hreserved
      · exact absurd hlogger hother.2
      · exact absurd (List.contains_iff_mem.mpr hreserved) hunreserved

/-- A taken event whose fields have names of their own is written. -/
theorem Logs.event_eq_write (htakes : logs.loggers.takes (runName runId) .info = true)
    (hnames : ∀ field ∈ fields, field.1 ∉ "logger" :: reservedFields) (now : Moment)
    (message : String) : logs.event now runId message fields =
      .ok (logs.write now (runName runId) ⟨.info, message, fields, none⟩) := by
  have hgiven : (fields.map (·.1)).find? (fun name => name = "message" || name = "logger") =
      none := by
    refine List.find?_eq_none.mpr fun name hname hgiven => ?_
    obtain ⟨field, hfield, rfl⟩ := List.mem_map.mp hname
    refine hnames field hfield ?_
    simp only [Bool.or_eq_true, decide_eq_true_eq] at hgiven
    rcases hgiven with h | h
    · exact List.mem_cons_of_mem _ (h ▸ List.mem_cons_self)
    · exact h ▸ List.mem_cons_self
  have hfree : (fields.map (·.1)).find? (reservedFields.contains ·) = none := by
    refine List.find?_eq_none.mpr fun name hname hreserved => ?_
    obtain ⟨field, hfield, rfl⟩ := List.mem_map.mp hname
    exact hnames field hfield (List.mem_cons_of_mem _ (List.contains_iff_mem.mp hreserved))
  unfold Logs.event
  rw [htakes, hgiven, hfree]
  rfl

end

/-- The line is written once iff no logger above has outputs. -/
theorem Logs.Sound.once_iff {acts : List Act} {logs : Logs} (h : Sound acts logs) {name : String}
    {own : Logger} {place : Option Place} (hfind : logs.loggers.find? name = some own)
    (hown : own.outputs = outputsWith place) (line : String) :
    logs.Once ((logs.loggers.outputs name).foldl (fun logs => logs.writeLine line) logs) line
        place ↔
      ∀ runId, (∃ act ∈ acts, act.Builds runId) → ¬ logs.loggers.Above name (runName runId) := by
  obtain ⟨rest, hpassed, hrest⟩ := Loggers.exists_passed_eq hfind
  have houtputs : logs.loggers.outputs name =
      outputsWith place ++ rest.flatMap Logger.outputs := by
    unfold Loggers.outputs
    rw [hpassed, List.flatMap_cons, hown]
  obtain ⟨-, hconsole, hfiles⟩ := writeLines_eq (fun p hp => h.hasFile hp) line
  constructor
  · intro honce runId hbuilt habove
    obtain ⟨logger, hlogger, hout⟩ := h.built runId hbuilt
    obtain ⟨place', hshape, -⟩ := h.outputs _ logger hlogger hout
    -- The console is among the outputs of this logger, too.
    have hagain : Output.console ∈ rest.flatMap Logger.outputs := by
      refine List.mem_flatMap.mpr ⟨logger, (hrest logger).mpr ⟨_, habove, hlogger⟩, ?_⟩
      rw [hshape]
      exact List.mem_cons_self
    have hpos := List.count_pos_iff.mpr hagain
    have hlength := congrArg List.length (hconsole.symm.trans honce.console)
    simp only [houtputs, List.length_append, List.length_replicate, List.count_append,
      count_console_outputsWith, List.length_singleton] at hlength
    omega
  · intro hnone
    have hempty : rest.flatMap Logger.outputs = [] := by
      refine List.flatMap_eq_nil_iff.mpr fun logger hlogger => ?_
      by_contra hout
      obtain ⟨above, habove, hfound⟩ := (hrest logger).mp hlogger
      obtain ⟨-, -, -, runId, rfl, hbuilt⟩ := h.outputs above logger hfound hout
      exact hnone runId hbuilt habove
    rw [hempty, List.append_nil] at houtputs
    rw [houtputs] at hconsole hfiles ⊢
    simp only [count_console_outputsWith, count_file_outputsWith] at hconsole hfiles
    constructor
    case console => exact hconsole
    case file =>
      intro p hp
      refine ⟨h.hasFile (houtputs ▸ file_mem_outputsWith.mpr hp), ?_⟩
      rw [hfiles, if_pos hp]
      rfl
    case others =>
      intro p hp
      rw [hfiles, if_neg hp]
      rfl

/-- **Events.** Let loggers be built and events be logged in any order, and let the logger of a run
have been built with the level of debugging or of information, and not anew since. An event with a
field whose name is taken is refused. Any other has a line iff each of the fields that are written
has a text, and without one nothing is written. The line goes to each logger that is passed and has
the output. It is written once, to the console and the file that the logger was built with, iff no
run that was built has a logger above; this is so unless the name of such a run is the first part of
this one's up to a dot. -/
theorem event_once_iff {files : FileTree} {before after : List Act} {runId levelName : String}
    {level : Level} {file : Option Path} (now : Moment) (message : String)
    (fields : List (String × Value))
    (hlevel : Level.ofName? (uppered levelName) = some level)
    (hlow : level = .debug ∨ level = .info) (hlatest : ∀ act ∈ after, ¬ act.Builds runId) :
    let built := ((Logs.start files).run before).build runId levelName file
    let logs := built.2.run after
    let record : Record := ⟨.info, message, fields, none⟩
    let acts := before ++ .build runId levelName file :: after
    ((∃ field ∈ fields, field.1 ∈ "logger" :: reservedFields) →
      ∃ fault, logs.event now runId message fields = .error fault) ∧
    ((∃ line, record.line? now = .ok line) ↔
      ∀ name ∈ writtenFields, Json.fault? (record.field name) = none) ∧
    ((∀ field ∈ fields, field.1 ∉ "logger" :: reservedFields) →
      ∃ logs', logs.event now runId message fields = .ok logs' ∧
        logs'.loggers = logs.loggers ∧
        (∀ fault, record.line? now = .error fault → logs' = logs) ∧
        ∀ line, record.line? now = .ok line →
          logs'.console = logs.console ++
            List.replicate ((logs.loggers.outputs (runName runId)).count .console) line ∧
          (∀ p, logs'.files.get? p = (addLine line)^[(logs.loggers.outputs (runName runId)).count
            (.file p)] (logs.files.get? p)) ∧
          (logs.Once logs' line (opened built file) ↔
            ∀ other, (∃ act ∈ acts, act.Builds other) →
              ¬ logs.loggers.Above (runName runId) (runName other)) ∧
          ((∀ other, (∃ act ∈ acts, act.Builds other) → ∀ rest, runId ≠ other ++ "." ++ rest) →
            logs.Once logs' line (opened built file))) := by
  intro built logs record acts
  -- The logger that was built last is still there, and the history is a sound one.
  have hfind : logs.loggers.find? (runName runId) =
      some ⟨level, outputsWith (opened built file)⟩ :=
    Logs.find?_run (((Logs.start files).run before).find?_build hlevel) hlatest
  have hsound : logs.Sound acts := by
    have hrun := (((Logs.Sound.start files).run before).build runId levelName file).run after
    rwa [List.nil_append, List.append_assoc] at hrun
  have htakes := Loggers.takes_info hfind hlow
  refine ⟨fun hname => Logs.exists_event_eq_error htakes hname now message,
    Record.exists_line?_iff, fun hnames => ?_⟩
  rw [Logs.event_eq_write htakes hnames]
  refine ⟨_, rfl, (Logs.quiet_write ..).loggers, fun fault hfault => ?_, fun line hline => ?_⟩
  · exact Logs.write_of_no_line hfault ..
  obtain ⟨-, hconsole, hfiles⟩ := Logs.writeLines_eq (fun p hp => hsound.hasFile hp) line
  have honce := hsound.once_iff hfind rfl line
  rw [Logs.write_of_line htakes hline]
  refine ⟨hconsole, hfiles, honce, fun hapart => honce.mpr ?_⟩
  intro other hbuilt habove
  obtain ⟨rest, hrest⟩ := habove.exists_eq_append
  refine hapart other hbuilt rest (runName_injective ?_)
  rw [hrest]
  simp only [runName, String.append_assoc]

/-- Of two runs, one was built anew with a level that there is not, and keeps its logger with a
file. -/
theorem event_once_iff_apart :
    let file : Option Path := some (Path.ofText "b.log")
    let built := ((Logs.start .empty).run [.build "a" "ERROR" none]).build "b" "debug" file
    let logs := built.2.run [.build "b" "LOUD" none]
    let now : Moment := ⟨.mk 2026 2 17, .mk 9 30 15 123456, some 0⟩
    let fields : List (String × Value) := [("event", .text "PING")]
    ∃ logs' line, logs.event now "b" "once" fields = .ok logs' ∧
      Record.line? ⟨.info, "once", fields, none⟩ now = .ok line ∧
      logs.Once logs' line (some ⟨.above 0, ["b.log"]⟩) := by
  intro file built logs now fields
  have hlevel : Level.ofName? (uppered "debug") = some .debug := by decide +kernel
  have hloud : Level.ofName? (uppered "LOUD") = none := by decide +kernel
  have hlatest : ∀ act ∈ [Act.build "b" "LOUD" none], ¬ act.Builds "b" := by
    rintro act hact ⟨levelName, file', rfl, hknown⟩
    cases List.mem_singleton.mp hact
    exact hknown hloud
  have hopened : opened built file = some ⟨.above 0, ["b.log"]⟩ := by decide +kernel
  obtain ⟨-, -, hwritten⟩ := @event_once_iff .empty [.build "a" "ERROR" none]
    [.build "b" "LOUD" none] "b" "debug" .debug file now "once" fields hlevel (.inl rfl) hlatest
  obtain ⟨logs', hevent, -, -, hline⟩ := hwritten (by decide +kernel)
  obtain ⟨-, -, -, hapart⟩ := hline _ rfl
  refine ⟨logs', _, hevent, rfl, hopened ▸ hapart ?_⟩
  rintro other ⟨act, hact, levelName, file', rfl, -⟩ rest hrest
  have hlist := congrArg String.toList hrest
  simp only [List.cons_append, List.nil_append, List.mem_cons, List.not_mem_nil, or_false,
    Act.build.injEq] at hact
  rcases hact with ⟨rfl, -⟩ | ⟨rfl, -⟩ | ⟨rfl, -⟩ <;> simp at hlist

/-- The logger of a run is above that of another whose name goes on after a dot: an event is logged
twice. -/
theorem dotted_event_twice :
    let logs := (Logs.start .empty).run [.build "a" "INFO" none, .build "a.b" "INFO" none]
    let now : Moment := ⟨.mk 2026 2 17, .mk 9 30 15 123456, some 0⟩
    let fields : List (String × Value) := [("event", .text "PING")]
    ∃ line, Record.line? ⟨.info, "once", fields, none⟩ now = .ok line ∧
      (logs.event now "a.b" "once" fields).toOption.map (·.console) = some [line, line] := by
  exact ⟨_, rfl, by decide +kernel⟩

end Sequencer.Log
