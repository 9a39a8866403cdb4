import Sequencer.Proofs.RunLog
import Sequencer.Run.Report

/-!
# Failures in the log

A run whose command fails as expected logs that as its last line, which tells of the failed command.
The line is a record of information, and so is logged only with the levels of debugging and of
information. No other line of any run tells of a failed command (`failure_logged`).
-/

namespace Sequencer.Run

open CommandLine (Options)
open Log (Level Logs Record runName)

section

variable {i : Invocation} {s : Surroundings} {runId : String} {logs : Logs}

/-- The logger of the run is built. -/
def Installed (i : Invocation) (s : Surroundings) (runId : String) (logs : Logs) : Prop :=
  s.untouched.logs.install runId i.options.logLevel (target i.options.logFile) = (.ok (), logs)

/-- The command of the run fails as expected, once its logger is built. -/
def Caught (i : Invocation) (s : Surroundings) (runId : String) (kind : FailureKind)
    (message : String) : Prop :=
  ∃ logs t, Installed i s runId logs ∧
    perform i s runId { s.untouched with logs } = (.error (.expected kind message), t)

/-- The last of the lines tells of the failure of a command, with the status of an error, the name
of the run and the code of the kind of failure, and no other line tells of one. -/
def OneFailure (runId : String) (kind : FailureKind) (lines : List String) : Prop :=
  ∃ front line, lines = front ++ [line] ∧ (∀ other ∈ front, ¬ TellsFailure other) ∧
    TellsFailure line ∧ Tells line "status" (.text "error") ∧
    Tells line "run_id" (.text runId) ∧ Tells line "error_code" (.text kind.code)

theorem Installed.exists_alone (h : Installed i s runId logs) :
    ∃ place, Alone runId i.options.logLevel place logs ∧ logs.console = [] ∧
      (∀ p, place = some p →
        logs.files.get? p = some (FileTree.FileEntry.append "" (s.files.get? p))) ∧
      ∀ path, target i.options.logFile = some path →
        ∃ p, place = some p ∧ logs.files.locate path = .ok p := by
  unfold Installed at h
  obtain ⟨files, place, hlogs, -, hfound, hfile, -⟩ :=
    s.untouched.logs.exists_install_eq runId i.options.logLevel (target i.options.logFile)
  rw [h] at hlogs hfound
  subst hlogs
  exact ⟨place, ⟨rfl, fun p hp => (hfile p hp).1⟩, rfl, fun p hp => (hfile p hp).2, hfound rfl⟩

theorem Installed.run_eq (h : Installed i s runId logs)
    (hrunId : given i.options.runId = some runId) :
    i.run s = runLogged i s runId { s.untouched with logs } := by
  unfold Installed at h
  unfold Invocation.run Surroundings.runId
  simp only [hrunId]
  unfold runNamed
  simp only [h]

theorem run_eq_of_refused {fault : FileFault}
    (h : s.untouched.logs.install runId i.options.logLevel (target i.options.logFile) =
      (.error fault, logs))
    (hrunId : given i.options.runId = some runId) :
    i.run s = .ended s { s.untouched with logs } .failure (some (.file fault)) := by
  unfold Invocation.run Surroundings.runId
  simp only [hrunId]
  unfold runNamed
  simp only [h]

theorem Caught.exists_run_eq {kind : FailureKind} {message : String}
    (h : Caught i s runId kind message) (hrunId : given i.options.runId = some runId) :
    ∃ logs t, Installed i s runId logs ∧
      perform i s runId { s.untouched with logs } = (.error (.expected kind message), t) ∧
      i.run s = .ended s (t.log s.now runId (failRecord i.command runId kind message)) .failure
        none := by
  obtain ⟨logs, t, hinstalled, hperform⟩ := h
  have hrun := hinstalled.run_eq hrunId
  unfold runLogged at hrun
  rw [hperform] at hrun
  exact ⟨logs, t, hinstalled, hperform, hrun⟩

/-- A run meets something unexpected, or its command fails as expected, or succeeds. -/
theorem run_ends (s : Surroundings) (hrunId : given i.options.runId = some runId) :
    (∃ cause, (i.run s).status = .failure ∧ (i.run s).unexpected = some cause) ∨
    (∃ kind message, Caught i s runId kind message) ∨
    ∃ status logs t, Installed i s runId logs ∧
      perform i s runId { s.untouched with logs } = (.ok status, t) ∧
      i.run s = .ended s t status none := by
  cases hinstall : s.untouched.logs.install runId i.options.logLevel (target i.options.logFile) with
  | mk result logs =>
    cases result with
    | error fault =>
      have hrun := run_eq_of_refused hinstall hrunId
      exact .inl ⟨.file fault, by rw [hrun]; rfl, by rw [hrun]; rfl⟩
    | ok =>
      have hinstalled : Installed i s runId logs := hinstall
      have hrun := hinstalled.run_eq hrunId
      unfold runLogged at hrun
      cases hperform : perform i s runId { s.untouched with logs } with
      | mk result t =>
        rw [hperform] at hrun
        cases result with
        | ok status => exact .inr (.inr ⟨status, logs, t, hinstalled, hperform, hrun⟩)
        | error failure =>
          cases failure with
          | expected kind message =>
            exact .inr (.inl ⟨kind, message, logs, t, hinstalled, hperform⟩)
          | unexpected cause => exact .inl ⟨cause, by rw [hrun]; rfl, by rw [hrun]; rfl⟩

/-- A command that succeeds leaves no line that tells of a failure in its log. -/
theorem Installed.log_of_ok (h : Installed i s runId logs) {status : Status} {t : Trace}
    (hperform : perform i s runId { s.untouched with logs } = (.ok status, t)) :
    status ≠ .failure ∧ (∀ line ∈ t.logs.console, ¬ TellsFailure line) ∧
    ∀ path, target i.options.logFile = some path → ∃ p, t.logs.files.locate path = .ok p ∧
      InFile i.options runId t.logs.files p (s.files.get? p) t.logs.console := by
  obtain ⟨place, halone, hconsole, hold, hfound⟩ := h.exists_alone
  obtain ⟨hstatus, lines, hquietly⟩ :=
    halone.of_perform_ok (t := { s.untouched with logs }) hperform
  have hlines : t.logs.console = lines := by
    rw [hquietly.console]
    show logs.console ++ lines = lines
    rw [hconsole, List.nil_append]
  rw [← hlines] at hquietly
  refine ⟨hstatus, hquietly.harmless, fun path hpath => ?_⟩
  obtain ⟨p, hp, hlocate⟩ := hfound path hpath
  obtain ⟨written, hgrows⟩ := hquietly.grows
  have hfile := hquietly.file p hp
  rw [show ({ s.untouched with logs } : Trace).logs.files.get? p = _ from hold p hp] at hfile
  exact ⟨p, hgrows.locate hlocate, hfile.of_opened⟩

/-- A run that fails as expected has logged, and at last its failure if the level allows. -/
theorem Caught.logged {kind : FailureKind} {message : String}
    (h : Caught i s runId kind message) (hrunId : given i.options.runId = some runId) :
    (i.run s).status.code = 20 ∧ (i.run s).unexpected = none ∧
    (i.options.logLevel = .debug ∨ i.options.logLevel = .info →
      OneFailure runId kind (i.run s).console) ∧
    (¬ (i.options.logLevel = .debug ∨ i.options.logLevel = .info) →
      ∀ line ∈ (i.run s).console, ¬ TellsFailure line) ∧
    ∀ path, target i.options.logFile = some path → ∃ p, (i.run s).files.locate path = .ok p ∧
      (i.run s).files.get? p = some
        (FileTree.FileEntry.append (linesText (i.run s).console) (s.files.get? p)) := by
  obtain ⟨logs, t, hinstalled, hperform, hrun⟩ := h.exists_run_eq hrunId
  obtain ⟨place, halone, hconsole, hold, hfound⟩ := hinstalled.exists_alone
  obtain ⟨lines, hlogged, hlines⟩ :=
    halone.onward_of_perform_expected (t := { s.untouched with logs }) hperform
  obtain ⟨line, hline, htells⟩ :=
    exists_line_failRecord i.command runId kind message s.now
  have hlast := hlogged.alone.logged s.now (failRecord i.command runId kind message)
  rw [hline] at hlast
  have hall := hlogged.trans hlast
  have htakes := hlogged.alone.takes_info_iff
  rw [hrun]
  have hlinesAll : (t.log s.now runId (failRecord i.command runId kind message)).logs.console =
      lines ++ if t.logs.loggers.takes (runName runId) .info then [line] else [] := by
    have hboth := hall.console
    rw [show ({ s.untouched with logs } : Trace).logs.console = [] from hconsole,
      List.nil_append] at hboth
    exact hboth
  refine ⟨rfl, rfl, fun hlow => ?_, fun hhigh => ?_, fun path hpath => ?_⟩
  · show OneFailure runId kind (t.log s.now runId _).logs.console
    rw [hlinesAll, if_pos (htakes.mpr hlow)]
    exact ⟨lines, line, rfl, hlines, htells⟩
  · show ∀ line ∈ (t.log s.now runId _).logs.console, ¬ TellsFailure line
    rw [hlinesAll, if_neg (mt htakes.mp hhigh), List.append_nil]
    exact hlines
  · obtain ⟨p, hp, hlocate⟩ := hfound path hpath
    refine ⟨p, hall.grows.locate hlocate, ?_⟩
    show (t.log s.now runId _).logs.files.get? p =
      some (FileTree.FileEntry.append (linesText (t.log s.now runId _).logs.console) _)
    have hfile := hall.file p hp
    rw [show ({ s.untouched with logs } : Trace).logs.files.get? p = _ from hold p hp,
      FileTree.FileEntry.append_append, String.empty_append] at hfile
    rw [hlinesAll]
    exact hfile

/-- **Failures in the log.** Let a run be given a name. It has the status of a failure and nothing
unexpected iff its command fails as expected once its logger is built. Then the last line on the
console tells of the failure of the command, and no other line does, if the log has the level of
debugging or of information; with a higher level no line does. The file of the log, if there is one,
has the lines of the console after what was there before. If the run succeeds or is flawed, no line
tells of a failure, and the file of the log has no other lines of it. -/
theorem failure_logged (s : Surroundings) (hrunId : given i.options.runId = some runId) :
    ((i.run s).status.code = 20 ∧ (i.run s).unexpected = none ↔
      ∃ kind message, Caught i s runId kind message) ∧
    (∀ kind message, Caught i s runId kind message →
      (i.options.logLevel = .debug ∨ i.options.logLevel = .info →
        OneFailure runId kind (i.run s).console) ∧
      (¬ (i.options.logLevel = .debug ∨ i.options.logLevel = .info) →
        ∀ line ∈ (i.run s).console, ¬ TellsFailure line) ∧
      ∀ path, target i.options.logFile = some path → ∃ p, (i.run s).files.locate path = .ok p ∧
        (i.run s).files.get? p = some
          (FileTree.FileEntry.append (linesText (i.run s).console) (s.files.get? p))) ∧
    ((i.run s).status.code = 0 ∨ (i.run s).status.code = 10 →
      (∀ line ∈ (i.run s).console, ¬ TellsFailure line) ∧
      ∀ path, target i.options.logFile = some path → ∃ p, (i.run s).files.locate path = .ok p ∧
        InFile i.options runId (i.run s).files p (s.files.get? p) (i.run s).console) := by
  refine ⟨⟨?_, ?_⟩, fun kind message h => (h.logged hrunId).2.2, fun hcode => ?_⟩
  · rintro ⟨hcode, hunexpected⟩
    rcases run_ends s hrunId with ⟨cause, -, hcause⟩ | hcaught | ⟨status, logs, t, hinstalled,
      hperform, hrun⟩
    · rw [hunexpected] at hcause
      cases hcause
    · exact hcaught
    · rw [hrun] at hcode
      cases status with
      | success => cases hcode
      | flawed => cases hcode
      | failure => exact absurd rfl (hinstalled.log_of_ok hperform).1
  · rintro ⟨kind, message, h⟩
    exact ⟨(h.logged hrunId).1, (h.logged hrunId).2.1⟩
  · rcases run_ends s hrunId with ⟨cause, hstatus, -⟩ | ⟨kind, message, h⟩ | ⟨status, logs, t,
      hinstalled, hperform, hrun⟩
    · have : (i.run s).status.code = 20 := by rw [hstatus]; rfl
      omega
    · have := (h.logged hrunId).1
      omega
    · rw [hrun]
      exact (hinstalled.log_of_ok hperform).2

end

/-- The text is no identifier, and the log is a file that holds a line already. -/
theorem failure_logged_inspect :
    let moment : Moment := ⟨.mk 2026 2 17, .mk 9 30 15 123000, some 0⟩
    let i : Invocation := ⟨.inspect, some "12345", { Options.standard with
      logFile := some "log"
      runId := some "r1" }⟩
    let s : Surroundings := {
      localClock := ⟨.reading moment, []⟩
      utcClock := ⟨.reading moment, []⟩
      now := moment
      random := .scripted ⟨.value (.int 100000), []⟩
      timer := ⟨.int 5, []⟩
      fraction := .zero
      files := FileTree.empty.plant ["log"] (.text "before\n")
      runIds := ⟨1, 0⟩ }
    OneFailure "r1" .identifierFormat (i.run s).console ∧
      (i.run s).files.readText (Path.ofText "log") =
        .ok ("before\n" ++ linesText (i.run s).console) := by
  intro moment i s
  have hcaught : ∃ message, Caught i s "r1" .identifierFormat message := ⟨_, _, _, rfl, rfl⟩
  obtain ⟨message, hcaught⟩ := hcaught
  have hrunId : given i.options.runId = some "r1" := by decide +kernel
  obtain ⟨-, hfailed, -⟩ := failure_logged s hrunId
  obtain ⟨hone, -, hfile⟩ := hfailed .identifierFormat message hcaught
  obtain ⟨p, hlocate, hget⟩ := hfile (Path.ofText "log") (by decide +kernel)
  refine ⟨hone (.inr rfl), FileTree.readText_of_get? hlocate ?_⟩
  obtain rfl : p = ⟨.above 0, ["log"]⟩ := by
    have hplace : (i.run s).files.locate (Path.ofText "log") = .ok ⟨.above 0, ["log"]⟩ := by
      decide +kernel
    exact Except.ok.inj (hlocate.symm.trans hplace)
  have hold : s.files.get? ⟨.above 0, ["log"]⟩ = some (.text "before\n") := by decide +kernel
  rw [hget, hold]
  rfl

/-- With the level of errors the failure of a command leaves nothing on the console. -/
theorem failure_not_logged :
    let moment : Moment := ⟨.mk 2026 2 17, .mk 9 30 15 123000, some 0⟩
    let i : Invocation := ⟨.inspect, some "12345", { Options.standard with
      runId := some "r1"
      logLevel := .error }⟩
    let s : Surroundings := {
      localClock := ⟨.reading moment, []⟩
      utcClock := ⟨.reading moment, []⟩
      now := moment
      random := .scripted ⟨.value (.int 100000), []⟩
      timer := ⟨.int 5, []⟩
      fraction := .zero
      files := .empty
      runIds := ⟨1, 0⟩ }
    (∃ message, Caught i s "r1" .identifierFormat message) ∧ (i.run s).status.code = 20 ∧
      (i.run s).console = [] := by
  intro moment i s
  refine ⟨⟨_, _, _, rfl, rfl⟩, by decide +kernel, by decide +kernel⟩

end Sequencer.Run
