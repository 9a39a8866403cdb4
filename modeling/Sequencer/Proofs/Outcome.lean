import Sequencer.Proofs.Construction
import Sequencer.Proofs.Delivery

/-!
# How runs of `generate` end

A run whose log can be opened ends in one of three ways. It is refused, for a reason of the domain
(`Refused`), and leaves nothing behind but its log. Or it meets something unexpected, and leaves
nothing more unless a file cannot be written. Or it delivers a whole batch (`Delivered`), and then
its status tells whether all identifiers are different.
-/

namespace Sequencer.Run

open CommandLine (Options)
open FileTree (Grows)

/-! ## Refused runs -/

/-- The settings that a run loads. -/
def loaded (o : Options) (files : FileTree) : Except LoadFailure Settings :=
  files.loadSettings false (Path.ofText o.configDirectory) (target o.overlayDirectory)

/-- Why a run in a tree is refused. -/
inductive Refused (o : Options) (s : Surroundings) (files : FileTree) : Prop
  /-- The configuration is missing or found wanting. -/
  | config (fault : ConfigFault) (h : loaded o files = .error (.config (.fault fault)))
  /-- The ceiling of the options is less than one. -/
  | ceiling (settings : Settings) (h : loaded o files = .ok settings)
      (low : (overridden settings o).ceiling < 1)
  /-- Fewer than one worker or fewer than one identifier for each is asked for. -/
  | amount (settings : Settings) (h : loaded o files = .ok settings)
      (low : o.threads < 1 ∨ o.count < 1)
  /-- A worker has used up its attempts, or met a failure that is not tried again. -/
  | exhausted (settings : Settings) (generator : Generator) (fault : GenerationFault)
      (h : prepare o s files = .ok (settings, generator))
      (failed : (batchOf o s settings generator).result = .error (.generation fault))

theorem exists_ofValue_of_loaded {o : Options} {files : FileTree} {settings : Settings}
    (h : loaded o files = .ok settings) :
    ∃ value, Settings.ofValue false value = .ok settings := by
  obtain ⟨present, -, h⟩ := Stage.bind_eq_ok_iff.mp h
  split at h
  · obtain ⟨value, -, h⟩ := Stage.bind_eq_ok_iff.mp h
    exact ⟨value, Stage.mapError_eq_ok_iff.mp h⟩
  · cases h

section

variable {o : Options} {s : Surroundings} {files : FileTree} {settings : Settings}

theorem prepare_of_error {failure : LoadFailure} (h : loaded o files = .error failure) :
    prepare o s files = .error (.ofLoad failure) := by
  unfold loaded at h
  unfold prepare
  simp only [h]

theorem prepare_of_lt (h : loaded o files = .ok settings)
    (hlow : (overridden settings o).ceiling < 1) :
    ∃ message, prepare o s files = .error (.expected .config message) := by
  have hnew : Counter.new (.int (overridden settings o).ceiling) 0 =
      .error (.badCeiling (.int (overridden settings o).ceiling)) := by
    unfold Counter.new Counter.ceiling?
    simp only [if_neg (Int.not_le.mpr hlow)]
  unfold loaded at h
  unfold prepare Generator.build
  simp only [h, hnew]
  exact ⟨_, rfl⟩

theorem prepare_of_le (h : loaded o files = .ok settings)
    (hpos : 1 ≤ (overridden settings o).ceiling) :
    ∃ generator, prepare o s files = .ok (overridden settings o, generator) ∧
      generator.counter = ⟨(overridden settings o).ceiling, 0⟩ := by
  obtain ⟨value, hvalue⟩ := exists_ofValue_of_loaded h
  obtain ⟨_, _, _, _, hdescribes⟩ := Settings.ofValue_eq_ok_iff.mp hvalue
  -- The override leaves the clock as it was configured.
  have hclock : (overridden settings o).clock ∈ clockNames := hdescribes.inGenerator.clock_mem
  obtain ⟨mode, -, hbuild⟩ := Generator.build_of_accepted hpos hclock s.clock s.random
  unfold loaded at h
  unfold prepare
  simp only [h, hbuild]
  exact ⟨_, rfl, rfl⟩

end

/-! ## The cases of the command -/

section

variable {o : Options} {s : Surroundings} (runId : String) {t : Trace}

theorem generate_of_prepare_error {failure : Failure}
    (h : prepare o s t.logs.files = .error failure) :
    generate o s runId t = (.error failure, t) := by
  unfold generate
  simp only [h]

theorem generate_of_batch_error {settings : Settings} {generator : Generator}
    {fault : Batch.Fault} (hprepare : prepare o s t.logs.files = .ok (settings, generator))
    (hbatch : (batchOf o s settings generator).result = .error fault) :
    ∃ t', generate o s runId t = (.error (.expected fault.kind fault.message), t') ∧
      t.Quiet t' := by
  have hlog := t.quiet_log s.now runId (startRecord o runId)
  obtain ⟨t', hmade, hquiet⟩ :=
    makeBatch_of_error runId (t.log s.now runId (startRecord o runId)) hbatch
  refine ⟨t', ?_, hlog.trans hquiet⟩
  unfold generate
  simp only [hprepare, hmade]

/-- A batch that is made is delivered as it is, once it is summed up. -/
theorem generate_of_batch_ok {settings : Settings} {generator : Generator}
    {identifiers : List String} (hprepare : prepare o s t.logs.files = .ok (settings, generator))
    (hbatch : (batchOf o s settings generator).result = .ok identifiers) :
    ∃ t' duration, t.Quiet t' ∧
      ((∃ fault, generate o s runId t = (.error (.unexpected (.summary fault)), t')) ∨
      ∃ summary, summarise identifiers o.threads o.count settings.ceiling duration = .ok summary ∧
        generate o s runId t = deliver o s runId identifiers summary t') := by
  have hlog := t.quiet_log s.now runId (startRecord o runId)
  obtain ⟨t', duration, hquiet, hmade⟩ :=
    makeBatch_of_ok runId (t.log s.now runId (startRecord o runId)) hbatch
  refine ⟨t', duration, hlog.trans hquiet, ?_⟩
  unfold generate
  rcases hmade with ⟨fault, hmade⟩ | ⟨summary, hsummary, hmade⟩
  · simp only [hprepare, hmade]
    exact .inl ⟨fault, rfl⟩
  · simp only [hprepare, hmade]
    exact .inr ⟨summary, hsummary, rfl⟩

/-- A run that is refused fails as expected, and only logs. -/
theorem generate_of_refused (h : Refused o s t.logs.files) :
    ∃ kind message t', generate o s runId t = (.error (.expected kind message), t') ∧
      t.Quiet t' := by
  cases h with
  | config fault h =>
    exact ⟨_, _, t, generate_of_prepare_error runId (prepare_of_error h), .refl t⟩
  | ceiling settings h low =>
    obtain ⟨message, hprepare⟩ := prepare_of_lt (s := s) h low
    exact ⟨_, message, t, generate_of_prepare_error runId hprepare, .refl t⟩
  | amount settings h low =>
    by_cases hlow : (overridden settings o).ceiling < 1
    · obtain ⟨message, hprepare⟩ := prepare_of_lt (s := s) h hlow
      exact ⟨_, message, t, generate_of_prepare_error runId hprepare, .refl t⟩
    · obtain ⟨generator, hprepare, -⟩ := prepare_of_le (s := s) h (Int.not_lt.mp hlow)
      obtain ⟨fault, hfault, -⟩ := generator.generateBatchIn_of_lt s.turns _ _ low
      obtain ⟨t', hgenerate, hquiet⟩ := generate_of_batch_error runId hprepare hfault
      exact ⟨_, _, t', hgenerate, hquiet⟩
  | exhausted settings generator fault hprepare failed =>
    obtain ⟨t', hgenerate, hquiet⟩ := generate_of_batch_error runId hprepare failed
    exact ⟨_, _, t', hgenerate, hquiet⟩

/-- What comes of the command: it is refused, or meets something unexpected, before it delivers,
or it delivers. -/
theorem generate_cases (o : Options) (s : Surroundings) (runId : String) (t : Trace) :
    Refused o s t.logs.files ∨
    (∃ cause t', generate o s runId t = (.error (.unexpected cause), t') ∧ t.Quiet t') ∨
    ∃ settings identifiers summary t',
      loaded o t.logs.files = .ok settings ∧ t.Quiet t' ∧
      generate o s runId t = deliver o s runId identifiers summary t' ∧
      (identifiers.length : Int) = o.threads * o.count ∧
      (∀ text ∈ identifiers,
        Identifier.wellFormed (overridden settings o).ceiling text = true) ∧
      summary.Tells identifiers := by
  cases hloaded : loaded o t.logs.files with
  | error failure =>
    by_cases hfault : ∃ fault, failure = .config (.fault fault)
    · obtain ⟨fault, rfl⟩ := hfault
      exact .inl (.config fault hloaded)
    · refine .inr (.inl ?_)
      have hunexpected : Failure.ofLoad failure = .unexpected (.load failure) := by
        unfold Failure.ofLoad
        split
        · exact absurd ⟨_, rfl⟩ hfault
        · rfl
      have hprepare := prepare_of_error (s := s) hloaded
      rw [hunexpected] at hprepare
      exact ⟨_, t, generate_of_prepare_error runId hprepare, .refl t⟩
  | ok settings =>
    by_cases hlow : (overridden settings o).ceiling < 1
    · exact .inl (.ceiling settings hloaded hlow)
    by_cases hamount : o.threads < 1 ∨ o.count < 1
    · exact .inl (.amount settings hloaded hamount)
    obtain ⟨generator, hprepare, hcounter⟩ := prepare_of_le (s := s) hloaded (Int.not_lt.mp hlow)
    have sound : generator.counter.Sound := by
      rw [hcounter]
      refine ⟨Int.not_lt.mp hlow, Int.le_refl 0, ?_⟩
      show 0 ≤ (overridden settings o).ceiling + 1
      omega
    cases hbatch : (batchOf o s (overridden settings o) generator).result with
    | error fault =>
      obtain ⟨reason, rfl⟩ := Generator.generateBatchIn_eq_error (by omega) (by omega) hbatch
      exact .inl (.exhausted _ generator reason hprepare hbatch)
    | ok identifiers =>
      obtain ⟨-, hlength, hwell⟩ := Generator.generateBatchIn_eq_ok sound hbatch
      rw [hcounter] at hwell
      obtain ⟨t', duration, hquiet, ⟨fault, hgenerate⟩ | ⟨summary, hsummary, hgenerate⟩⟩ :=
        generate_of_batch_ok runId hprepare hbatch
      · exact .inr (.inl ⟨_, t', hgenerate, hquiet⟩)
      · obtain ⟨durationMs, -, rfl⟩ := eq_tally_of_summarise hsummary
        exact .inr (.inr ⟨settings, identifiers, _, t', rfl, hquiet, hgenerate, hlength, hwell,
          tells_tally hwell durationMs⟩)

end

/-! ## The log -/

/-- The tree in which a command runs: that of the surroundings, with the file of the log opened if
one is named. -/
def Surroundings.withLog (s : Surroundings) (o : Options) : Except FileFault FileTree :=
  match target o.logFile with
  | none => .ok s.files
  | some path => (s.files.append path "").map Prod.fst

theorem install_of_withLog {o : Options} {s : Surroundings} {files : FileTree}
    (h : s.withLog o = .ok files) (runId : String) :
    ∃ logs, s.untouched.logs.install runId o.logLevel (target o.logFile) = (.ok (), logs) ∧
      logs.files = files ∧
      (∀ p, logs.loggers.Reaches p → placeOf files (target o.logFile) = some p) ∧
      Grows (fun p => placeOf files (target o.logFile) = some p) s.files files := by
  unfold Surroundings.withLog at h
  unfold Log.Logs.install
  cases hpath : target o.logFile with
  | none =>
    rw [hpath] at h
    cases h
    refine ⟨_, rfl, rfl, fun p hp => ?_, .refl _ _⟩
    obtain ⟨entry, hentry, hout⟩ := hp
    rw [List.mem_singleton.mp hentry] at hout
    simp at hout
  | some path =>
    rw [hpath] at h
    obtain ⟨⟨opened, place⟩, happend, rfl⟩ := Stage.map_eq_ok_iff.mp h
    obtain ⟨hgrows, hlocate⟩ := FileTree.append_eq_ok happend
    have happend : s.untouched.logs.files.append path "" = .ok (opened, place) := happend
    have hplace : placeOf opened (some path) = some place :=
      placeOf_eq_some_iff.mpr ⟨path, rfl, hlocate⟩
    simp only [happend]
    refine ⟨_, rfl, rfl, fun p hp => ?_, hgrows.mono ?_⟩
    · obtain ⟨entry, hentry, hout⟩ := hp
      rw [List.mem_singleton.mp hentry] at hout
      obtain rfl : p = place := by simpa using hout
      exact hplace
    · rintro q rfl
      exact hplace

/-! ## Whole runs -/

/-- The places of the files that a command line names. -/
def placesNamed (o : Options) (files : FileTree) : List Place :=
  [target o.output, target o.summary, target o.logFile].filterMap (placeOf files)

theorem places_apart {o : Options} {files : FileTree} (h : (placesNamed o files).Nodup)
    (p : Place) :
    ¬ (placeOf files (target o.output) = some p ∧ placeOf files (target o.summary) = some p) ∧
    ¬ (placeOf files (target o.output) = some p ∧ placeOf files (target o.logFile) = some p) ∧
    ¬ (placeOf files (target o.summary) = some p ∧
      placeOf files (target o.logFile) = some p) := by
  unfold placesNamed at h
  refine ⟨?_, ?_, ?_⟩
  · rintro ⟨houtput, hsummary⟩
    simp [List.filterMap_cons, houtput, hsummary] at h
  · rintro ⟨houtput, hlog⟩
    simp [List.filterMap_cons, houtput, hlog] at h
    split at h <;> simp at h
  · rintro ⟨hsummary, hlog⟩
    simp [List.filterMap_cons, hsummary, hlog] at h
    split at h <;> simp at h

/-- The run has printed no line, and touched nothing but its log. -/
structure Untouched (o : Options) (s : Surroundings) (r : Report) : Prop where
  printed : r.printed = []
  files : Grows (fun p => placeOf r.files (target o.logFile) = some p) s.files r.files
  named : ∀ path, target o.output = some path ∨ target o.summary = some path →
    ∀ p, r.files.locate path = .ok p →
      r.files.get? p = s.files.get? p ∨
        s.files.get? p = none ∧ r.files.get? p = some .directory

/-- The run has delivered these lines. -/
structure Delivered (o : Options) (runId : String) (ceiling : Int) (lines : List String)
    (r : Report) : Prop where
  length : (lines.length : Int) = o.threads * o.count
  wellFormed : ∀ line ∈ lines, Identifier.wellFormed ceiling line = true
  success_iff : r.status.code = 0 ↔ lines.Nodup
  flawed_iff : r.status.code = 10 ↔ ¬ lines.Nodup
  unexpected : r.unexpected = none
  /-- Without a file for them the lines are printed. -/
  toOutput : target o.output = none → r.printed = lines
  /-- A file for them holds the lines, each with its end, and nothing behind the last. -/
  toFile : ∀ path, target o.output = some path → r.printed = [] ∧
    ∃ content, r.files.readText path = .ok content ∧
      content.toList.splitOn '\n' = lines.map String.toList ++ [[]]
  account : ∀ path, target o.summary = some path →
    ∃ content, r.files.readText path = .ok content ∧
      Tells content "run_id" (.text runId) ∧
      Tells content "total" (.int (o.threads * o.count)) ∧
      Tells content "malformed" (.int 0) ∧
      Tells content "unique" (.int lines.dedup.length) ∧
      Tells content "duplicates" (.int (o.threads * o.count - lines.dedup.length))

section

variable {i : Invocation} {s : Surroundings} {runId : String} {files : FileTree} {t : Trace}

/-- A trace at the beginning of a run: nothing is printed, and the loggers write to the file of the
log alone. -/
structure Begun (o : Options) (s : Surroundings) (files : FileTree) (t : Trace) : Prop where
  printed : t.printed = []
  files_eq : t.logs.files = files
  reaches : ∀ p, t.logs.loggers.Reaches p → placeOf files (target o.logFile) = some p
  grown : Grows (fun p => placeOf files (target o.logFile) = some p) s.files files

theorem exists_begun (hrunId : given i.options.runId = some runId)
    (hlog : s.withLog i.options = .ok files) :
    ∃ t, Begun i.options s files t ∧ i.run s = runLogged i s runId t := by
  obtain ⟨logs, hinstall, hfiles, hreaches, hgrown⟩ := install_of_withLog hlog runId
  refine ⟨{ s.untouched with logs }, ⟨rfl, hfiles, hreaches, hgrown⟩, ?_⟩
  unfold Invocation.run Surroundings.runId
  simp only [hrunId]
  unfold runNamed
  simp only [hinstall]

theorem Begun.grows (h : Begun i.options s files t) {logs : Log.Logs} (hquiet : t.logs.Quiet logs) :
    Grows (fun p => placeOf logs.files (target i.options.logFile) = some p) s.files logs.files := by
  have hgrows : Grows (fun p => placeOf files (target i.options.logFile) = some p) files
      logs.files := by
    rw [← h.files_eq]
    exact hquiet.files.mono fun p hp => h.files_eq ▸ h.reaches p hp
  exact (h.grown.trans hgrows).mono fun p hp => placeOf_of_grows hgrows hp

/-- Logging alone leaves everything untouched but the log. -/
theorem Begun.untouched (h : Begun i.options s files t) {t' : Trace} (hquiet : t.Quiet t')
    {r : Report} (hprinted : r.printed = t'.printed) (hfiles : r.files = t'.logs.files)
    (hdistinct : (placesNamed i.options r.files).Nodup) : Untouched i.options s r := by
  have hgrows := h.grows hquiet.logs
  rw [← hfiles] at hgrows
  refine ⟨by rw [hprinted, hquiet.printed, h.printed], hgrows, fun path hpath p hp => ?_⟩
  apply hgrows.others p
  intro hlog
  obtain ⟨-, houtput, hsummary⟩ := places_apart hdistinct p
  rcases hpath with hpath | hpath
  · exact houtput ⟨placeOf_eq_some_iff.mpr ⟨path, hpath, hp⟩, hlog⟩
  · exact hsummary ⟨placeOf_eq_some_iff.mpr ⟨path, hpath, hp⟩, hlog⟩

/-- What was put in place one after another is all there in the end. -/
theorem Begun.delivered (h : Begun i.options s files t) {t₁ t₂ t₃ : Trace} {lines : List String}
    {ceiling : Int} {summary : BatchSummary} {record : Log.Record}
    (hlength : (lines.length : Int) = i.options.threads * i.options.count)
    (hwell : ∀ line ∈ lines, Identifier.wellFormed ceiling line = true)
    (htells : summary.Tells lines) (hquiet : t.Quiet t₁)
    (hlines : t₁.putIdentifiers (target i.options.output) lines = .ok t₂)
    (hsummary : t₂.putSummary (target i.options.summary) runId summary = .ok t₃)
    {r : Report} (hr : r = .ended s (t₃.log s.now runId record)
      (if summary.healthy then .success else .flawed) none)
    (hdistinct : (placesNamed i.options r.files).Nodup) :
    Delivered i.options runId ceiling lines r := by
  obtain ⟨hput, hprinted⟩ := Trace.put_identifiers hlines
  obtain ⟨hprinted', content, hput', hcontent⟩ := Trace.put_summary hsummary
  have hlast := t₃.quiet_log s.now runId record
  have hfiles : r.files = (t₃.log s.now runId record).logs.files := by rw [hr]; rfl
  have hall : r.printed = if target i.options.output = none then lines else [] := by
    rw [hr]
    show (t₃.log s.now runId record).printed = _
    rw [hlast.printed, hprinted', hprinted, hquiet.printed, h.printed, List.nil_append]
  have hgrows := hlast.logs.files
  rw [← hfiles] at hgrows
  have hlogged : Grows (fun p => placeOf r.files (target i.options.logFile) = some p) t₃.logs.files
      r.files := by
    refine hgrows.mono fun p hp => ?_
    -- The loggers never change, so the last record too goes to the file of the log.
    rw [hput'.loggers, hput.loggers, hquiet.logs.loggers] at hp
    have hplace := h.reaches p hp
    rw [← h.files_eq] at hplace
    exact placeOf_of_grows hgrows (placeOf_of_grows hput'.files
      (placeOf_of_grows hput.files (placeOf_of_grows hquiet.logs.files hplace)))
  have hafter : Grows (fun p => placeOf r.files (target i.options.summary) = some p ∨
      placeOf r.files (target i.options.logFile) = some p) t₂.logs.files r.files :=
    (hput'.files.mono fun p hp => .inl (placeOf_of_grows hgrows hp)).trans
      (hlogged.mono fun _ => .inr)
  have hstatus : r.status = if summary.healthy then .success else .flawed := by rw [hr]; rfl
  constructor
  case length => exact hlength
  case wellFormed => exact hwell
  case success_iff =>
    rw [hstatus, ← htells.healthy_iff]
    cases summary.healthy <;> simp [Status.code]
  case flawed_iff =>
    rw [hstatus, ← htells.healthy_iff]
    cases summary.healthy <;> simp [Status.code]
  case unexpected =>
    rw [hr]
    rfl
  case toOutput =>
    intro hnone
    rw [hall, if_pos hnone]
  case toFile =>
    intro path hpath
    rw [hpath] at hput
    refine ⟨by rw [hall, if_neg (by rw [hpath]; nofun)], _, hput.readText hafter fun p hp => ?_,
      splitOn_linesText fun line hline => newline_notMem_of_wellFormed (hwell line hline)⟩
    rw [← hpath] at hp
    obtain ⟨hapart, hapart', -⟩ := places_apart hdistinct p
    rintro (hs | hl)
    · exact hapart ⟨hp, hs⟩
    · exact hapart' ⟨hp, hl⟩
  case account =>
    intro path hpath
    rw [hpath] at hput'
    rw [← hlength]
    refine ⟨content, hput'.readText hlogged fun p hp hl => ?_,
      tells_of_document htells (hcontent (by rw [hpath]; nofun))⟩
    rw [← hpath] at hp
    obtain ⟨-, -, hapart⟩ := places_apart hdistinct p
    exact hapart ⟨hp, hl⟩

end

/-- The ways in which a run of `generate` ends. -/
theorem run_cases {i : Invocation} {s : Surroundings} {runId : String} {files : FileTree}
    (hcommand : i.command = .generate) (hrunId : given i.options.runId = some runId)
    (hlog : s.withLog i.options = .ok files)
    (hdistinct : (placesNamed i.options (i.run s).files).Nodup) :
    (Refused i.options s files ∧ (i.run s).status = .failure ∧ (i.run s).unexpected = none ∧
      Untouched i.options s (i.run s)) ∨
    (¬ Refused i.options s files ∧ (i.run s).status = .failure ∧
      ∃ cause, (i.run s).unexpected = some cause ∧
        (¬ cause.OfDelivery → Untouched i.options s (i.run s))) ∨
    (¬ Refused i.options s files ∧ ∃ settings lines, loaded i.options files = .ok settings ∧
      Delivered i.options runId (overridden settings i.options).ceiling lines (i.run s)) := by
  obtain ⟨t, hbegun, hrun⟩ := exists_begun hrunId hlog
  have hperform : perform i s runId t = generate i.options s runId t := by
    unfold perform
    rw [hcommand]
  unfold runLogged at hrun
  rw [hperform] at hrun
  by_cases hrefused : Refused i.options s files
  · left
    obtain ⟨kind, message, t', hgenerate, hquiet⟩ :=
      generate_of_refused runId (t := t) (by rw [hbegun.files_eq]; exact hrefused)
    simp only [hgenerate] at hrun
    have hquiet := hquiet.trans
      (t'.quiet_log s.now runId (failRecord i.command runId kind message))
    refine ⟨hrefused, by rw [hrun]; rfl, by rw [hrun]; rfl, ?_⟩
    exact hbegun.untouched hquiet (by rw [hrun]; rfl) (by rw [hrun]; rfl) hdistinct
  right
  have hcases := generate_cases i.options s runId t
  rw [hbegun.files_eq] at hcases
  rcases hcases with hrefused' | ⟨cause, t', hgenerate, hquiet⟩ |
    ⟨settings, lines, summary, t', hloaded, hquiet, hgenerate, hlength, hwell, htells⟩
  · exact absurd hrefused' hrefused
  · left
    simp only [hgenerate] at hrun
    refine ⟨hrefused, by rw [hrun]; rfl, cause, by rw [hrun]; rfl, fun _ => ?_⟩
    exact hbegun.untouched hquiet (by rw [hrun]; rfl) (by rw [hrun]; rfl) hdistinct
  · rcases deliver_cases i.options s runId lines summary t' with
      ⟨cause, hcause, hfault⟩ | ⟨t₂, t₃, hlines, hsummary, hdeliver⟩
    · left
      generalize hend : deliver i.options s runId lines summary t' = ending at hfault hgenerate
      obtain ⟨outcome, t''⟩ := ending
      cases hfault
      simp only [hgenerate] at hrun
      refine ⟨hrefused, by rw [hrun]; rfl, cause, by rw [hrun]; rfl, fun hother => ?_⟩
      exact absurd hcause hother
    · right
      rw [hdeliver] at hgenerate
      simp only [hgenerate] at hrun
      exact ⟨hrefused, settings, lines, hloaded,
        hbegun.delivered hlength hwell htells hquiet hlines hsummary hrun hdistinct⟩

/-- **The command `generate`.** Let a run be given a name, its log be opened, and the files that it
names be different ones in the end. If its status is success or flawed, it has delivered as many
lines as were asked for, all well formed for the ceiling of the options or else the configured
one, and success means that they are all different. It is refused for a reason of the domain iff it
fails with nothing unexpected. Whenever it fails, and nothing was in the way of a delivery, no line
is printed and nothing is touched but its log. -/
theorem generate_all_or_nothing {i : Invocation} {s : Surroundings} {runId : String}
    {files : FileTree} (hcommand : i.command = .generate)
    (hrunId : given i.options.runId = some runId) (hlog : s.withLog i.options = .ok files)
    (hdistinct : (placesNamed i.options (i.run s).files).Nodup) :
    ((i.run s).status.code = 0 ∨ (i.run s).status.code = 10 →
      ∃ settings lines, loaded i.options files = .ok settings ∧
        Delivered i.options runId (i.options.ceiling.getD settings.ceiling) lines (i.run s)) ∧
    (Refused i.options s files ↔ (i.run s).status.code = 20 ∧ (i.run s).unexpected = none) ∧
    ((i.run s).status.code = 20 →
      (∀ cause, (i.run s).unexpected = some cause → ¬ cause.OfDelivery) →
      Untouched i.options s (i.run s)) := by
  rcases run_cases hcommand hrunId hlog hdistinct with
    ⟨hrefused, hstatus, hunexpected, huntouched⟩ |
    ⟨hrefused, hstatus, cause, hunexpected, huntouched⟩ |
    ⟨hrefused, settings, lines, hloaded, hdelivered⟩
  · have hcode : (i.run s).status.code = 20 := by rw [hstatus]; rfl
    refine ⟨fun h => ?_, ⟨fun _ => ⟨hcode, hunexpected⟩, fun _ => hrefused⟩, fun _ _ => huntouched⟩
    omega
  · have hcode : (i.run s).status.code = 20 := by rw [hstatus]; rfl
    refine ⟨fun h => ?_, ⟨fun h => absurd h hrefused, fun h => ?_⟩, fun _ hother => ?_⟩
    · omega
    · rw [hunexpected] at h
      cases h.2
    · exact huntouched (hother cause hunexpected)
  · have hcode : (i.run s).status.code ≠ 20 := by
      by_cases hnodup : lines.Nodup
      · rw [hdelivered.success_iff.mpr hnodup]
        decide
      · rw [hdelivered.flawed_iff.mpr hnodup]
        decide
    exact ⟨fun _ => ⟨settings, lines, hloaded, hdelivered⟩,
      ⟨fun h => absurd h hrefused, fun h => absurd h.1 hcode⟩, fun h => absurd h hcode⟩

/-- Two workers in turn, on a clock that stands still and with a random source that repeats itself:
under a ceiling of one the third line is the first one again. -/
theorem generate_all_or_nothing_repeat :
    let moment : Moment := ⟨.mk 2026 7 17, .mk 12 0 0 0, some 0⟩
    let i : Invocation := ⟨.generate, none, { Options.standard with
      count := 2
      threads := 2
      configDirectory := "."
      output := some "identifiers"
      summary := some "account"
      logFile := some "log"
      runId := some "once" }⟩
    let s : Surroundings := {
      localClock := ⟨.reading moment, []⟩
      utcClock := ⟨.reading moment, []⟩
      now := moment
      random := .scripted ⟨.value (.int 100000), []⟩
      timer := ⟨.int 5, []⟩
      fraction := .zero
      files := FileTree.empty.plant ["generator.yml"] (.text
        ("\x7bgenerator: \x7bmax_per_msec_size: 1, clock: utc, random_source: system\x7d, " ++
          "retry: \x7bmax_attempts: 1, initial_wait: 0, max_wait: 0\x7d\x7d"))
      runIds := ⟨1, 0⟩
      turns := [1, 0, 1, 0] }
    (i.run s).status = .flawed ∧ ∃ lines, Delivered i.options "once" 1 lines (i.run s) := by
  intro moment i s
  have hrun : (i.run s).status = .flawed ∧ (placesNamed i.options (i.run s).files).Nodup := by
    decide +kernel
  obtain ⟨files, hlog, hloaded⟩ : ∃ files, s.withLog i.options = .ok files ∧
      loaded i.options files = .ok ⟨1, "utc", "system", none, ⟨1, .float .zero, .float .zero⟩⟩ := by
    exact ⟨_, rfl, by decide +kernel⟩
  obtain ⟨hdelivered, -, -⟩ := generate_all_or_nothing rfl rfl hlog hrun.2
  obtain ⟨settings, lines, hsettings, hdelivered⟩ := hdelivered (.inr (by rw [hrun.1]; rfl))
  rw [hloaded] at hsettings
  cases hsettings
  exact ⟨hrun.1, lines, hdelivered⟩

end Sequencer.Run
