import Mathlib.Logic.Function.Iterate
import Mathlib.Logic.Relation
import Sequencer.Proofs.Delivery

/-!
# Loggers and what they write

A line that is written goes to each output as often as it is among the outputs given
(`Logs.writeLines_eq`). What is above a name in the tree of loggers is its first part up to a dot
(`Above.exists_eq_append`), and a record passes the logger of its name and those above
(`exists_passed_eq`). A logger that is built has the console and the file that was opened as outputs
(`Logs.exists_install_eq`, `Logs.build_cases`).
-/

namespace Sequencer.Log

open Text

/-! ## Writing a line -/

/-- The entry with a line added. -/
def addLine (line : String) (old : Option FileEntry) : Option FileEntry :=
  some (FileTree.FileEntry.append (line ++ "\n") old)

/-- A line is written as often to the console and to each file as they are among the outputs. -/
theorem Logs.writeLines_eq {logs : Logs} {outputs : List Output}
    (h : ∀ p, .file p ∈ outputs → logs.files.HasFile p) (line : String) :
    let logs' := outputs.foldl (fun logs => logs.writeLine line) logs
    logs'.loggers = logs.loggers ∧
    logs'.console = logs.console ++ List.replicate (outputs.count .console) line ∧
    ∀ p, logs'.files.get? p = (addLine line)^[outputs.count (.file p)] (logs.files.get? p) := by
  induction outputs generalizing logs with
  | nil => simp
  | cons output rest ih =>
    rw [List.foldl_cons]
    cases output with
    | console =>
      obtain ⟨hloggers, hconsole, hfiles⟩ := @ih (logs.writeLine line .console)
        fun p hp => h p (List.mem_cons_of_mem _ hp)
      refine ⟨hloggers, ?_, fun p => ?_⟩
      · rw [hconsole]
        simp [Logs.writeLine, List.replicate_succ]
      · rw [hfiles]
        simp [Logs.writeLine]
    | file q =>
      have hq : logs.files.HasFile q := h q List.mem_cons_self
      obtain ⟨hloggers, hconsole, hfiles⟩ := @ih (logs.writeLine line (.file q))
        fun p hp => (h p (List.mem_cons_of_mem _ hp)).appendAt q (line ++ "\n")
      refine ⟨hloggers, ?_, fun p => ?_⟩
      · rw [hconsole]
        simp [Logs.writeLine]
      · rw [hfiles]
        by_cases hpq : p = q
        · subst hpq
          have hput : (logs.writeLine line (.file p)).files.get? p =
              addLine line (logs.files.get? p) :=
            FileTree.get?_put_self _ _ (FileTree.names_ne_nil hq.ne_directory)
          rw [hput, List.count_cons_self, Function.iterate_succ_apply]
        · have hput : (logs.writeLine line (.file q)).files.get? p = logs.files.get? p :=
            FileTree.get?_put_of_ne _ _ hpq
          have hne : Output.file q ≠ .file p := fun heq => hpq (Output.file.inj heq).symm
          rw [hput, List.count_cons_of_ne hne]

theorem Logs.write_of_line {logs : Logs} {name : String} {record : Record} {now : Moment}
    {line : String} (htakes : logs.loggers.takes name record.level = true)
    (hline : record.line? now = .ok line) :
    logs.write now name record =
      (logs.loggers.outputs name).foldl (fun logs => logs.writeLine line) logs := by
  unfold Logs.write
  rw [if_pos htakes, hline]

/-- A record that has no line changes nothing. -/
theorem Logs.write_of_no_line {record : Record} {now : Moment} {fault : Json.Fault}
    (h : record.line? now = .error fault) (logs : Logs) (name : String) :
    logs.write now name record = logs := by
  unfold Logs.write
  rw [h]
  exact ite_self logs

theorem Logs.hasFile_writeLine {logs : Logs} {p : Place} (h : logs.files.HasFile p)
    (line : String) (output : Output) : (logs.writeLine line output).files.HasFile p := by
  cases output with
  | console => exact h
  | file q => exact h.appendAt q _

/-- No file goes when a record is written. -/
theorem Logs.hasFile_write {logs : Logs} {p : Place} (h : logs.files.HasFile p) (now : Moment)
    (name : String) (record : Record) : (logs.write now name record).files.HasFile p := by
  unfold Logs.write
  split
  · cases record.line? now with
    | error fault => exact h
    | ok line =>
      exact List.foldlRecOn (motive := fun logs : Logs => logs.files.HasFile p) _ _ h
        fun logs hlogs output _ => hasFile_writeLine hlogs line output
  · exact h

/-! ## The tree of names -/

theorem runName_injective {runId runId' : String} (h : runName runId = runName runId') :
    runId = runId' := by
  unfold runName at h
  have hlist := congrArg String.toList h
  simp only [String.toList_append, List.append_assoc, List.append_cancel_left_eq] at hlist
  exact String.toList_inj.mp hlist

/-- What is left of a name, from its end, is followed by a dot. -/
theorem exists_eq_append_of_mem_shortened {name chars : List Char} (h : chars ∈ shortened name) :
    ∃ front, name = front ++ '.' :: chars := by
  fun_induction shortened name with
  | case1 => cases h
  | case2 name hne ih =>
    -- The characters up to the first dot, the dot, and what is left.
    have hname : name = name.takeWhile (· ≠ '.') ++ '.' :: (name.dropWhile (· ≠ '.')).tail := by
      have hsplit := (List.takeWhile_append_dropWhile (p := (· ≠ '.')) (l := name)).symm
      cases hdrop : name.dropWhile (· ≠ '.') with
      | nil =>
        rw [hdrop] at hne
        exact absurd rfl hne
      | cons c rest =>
        have hc := List.head?_dropWhile_not (fun c : Char => decide (c ≠ '.')) name
        rw [hdrop] at hc
        obtain rfl : c = '.' := by simpa using hc
        rw [hdrop] at hsplit
        exact hsplit
    rcases List.mem_cons.mp h with rfl | h
    · exact ⟨_, hname⟩
    · obtain ⟨front, hfront⟩ := ih h
      generalize (name.dropWhile (· ≠ '.')).tail = rest at hname hne hfront
      cases rest with
      | nil => exact absurd rfl hne
      | cons c rest =>
        rw [List.tail_cons] at hfront
        rw [hfront] at hname
        exact ⟨name.takeWhile (· ≠ '.') ++ '.' :: c :: front, by simpa using hname⟩

theorem exists_eq_append_of_mem_namesAbove {name above : String} (h : above ∈ namesAbove name) :
    ∃ rest, name = above ++ "." ++ rest := by
  obtain ⟨chars, hchars, rfl⟩ := List.mem_map.mp h
  obtain ⟨front, hfront⟩ := exists_eq_append_of_mem_shortened hchars
  refine ⟨String.ofList front.reverse, String.toList_inj.mp ?_⟩
  have hlist := congrArg List.reverse hfront
  rw [List.reverse_reverse] at hlist
  simp [hlist]

namespace Loggers

variable {ls : Loggers} {name above : String}

theorem find?_put_self (ls : Loggers) (name : String) (logger : Logger) :
    (ls.put name logger).find? name = some logger := by
  simp [find?, put]

theorem find?_put_of_ne (ls : Loggers) (logger : Logger) {other : String} (h : other ≠ name) :
    (ls.put name logger).find? other = ls.find? other := by
  have hb : (other == name) = false := beq_eq_false_iff_ne.mpr h
  unfold find? put
  rw [List.lookup_cons, hb]
  show (ls.byName.filter (·.1 ≠ name)).lookup other = ls.byName.lookup other
  induction ls.byName with
  | nil => rfl
  | cons entry rest ih =>
    obtain ⟨n, old⟩ := entry
    by_cases hn : n = name
    · subst hn
      rw [List.filter_cons_of_neg (by simp), List.lookup_cons, hb]
      exact ih
    · rw [List.filter_cons_of_pos (by simpa using hn), List.lookup_cons, List.lookup_cons, ih]

theorem find?_put_eq_some_iff {logger found : Logger} {other : String} :
    (ls.put name logger).find? other = some found ↔
      other = name ∧ found = logger ∨ other ≠ name ∧ ls.find? other = some found := by
  by_cases h : other = name
  · subst h
    simp [find?_put_self, eq_comm]
  · simp [find?_put_of_ne _ _ h, h]

/-- Putting the logger of a name back changes no logger. -/
theorem find?_put_back {fresh found : Logger} {other : String} (h : ls.find? other = some found) :
    (ls.put name ((ls.find? name).getD fresh)).find? other = some found := by
  refine find?_put_eq_some_iff.mpr ?_
  by_cases hname : other = name
  · subst hname
    exact .inl ⟨rfl, by rw [h]; rfl⟩
  · exact .inr ⟨hname, h⟩

/-- A name is above another: right above it, or right above one that is. -/
def Above (ls : Loggers) : String → String → Prop :=
  Relation.TransGen fun name above => ls.above? name = some above

theorem exists_eq_append_of_above? (h : ls.above? name = some above) :
    ∃ rest, name = above ++ "." ++ rest :=
  exists_eq_append_of_mem_namesAbove (List.mem_of_find?_eq_some h)

/-- A name above another is its first part up to a dot. -/
theorem Above.exists_eq_append (h : ls.Above name above) : ∃ rest, name = above ++ "." ++ rest := by
  induction h with
  | single h => exact exists_eq_append_of_above? h
  | tail _ hnext ih =>
    obtain ⟨rest, rfl⟩ := ih
    obtain ⟨rest', rfl⟩ := exists_eq_append_of_above? hnext
    exact ⟨rest' ++ "." ++ rest, by simp only [String.append_assoc]⟩

theorem Above.length_lt (h : ls.Above name above) : above.length < name.length := by
  obtain ⟨rest, rfl⟩ := h.exists_eq_append
  have hdot : ".".length = 1 := rfl
  simp only [String.length_append, hdot]
  omega

/-- The loggers from a name upward are those of the name and of the names above it. -/
theorem mem_upward_iff {logger : Logger} {fuel : Nat} (hfuel : name.length < fuel) :
    logger ∈ ls.upward name fuel ↔
      ∃ above, Relation.ReflTransGen (fun name above => ls.above? name = some above) name above ∧
        ls.find? above = some logger := by
  induction fuel generalizing name with
  | zero => omega
  | succ fuel ih =>
    unfold upward
    rw [List.mem_append, Option.mem_toList]
    simp only [Relation.ReflTransGen.cases_head_iff (a := name), or_and_right, exists_or,
      exists_eq_left']
    refine or_congr Iff.rfl ?_
    cases habove : ls.above? name with
    | none => simp
    | some next =>
      have hlt := Above.length_lt (.single habove)
      simp only [ih (Nat.lt_of_lt_of_le hlt (Nat.le_of_lt_succ hfuel)), Option.some.injEq,
        exists_eq_left']

/-- A record passes the logger of its name first, and then those above. -/
theorem exists_passed_eq {own : Logger} (h : ls.find? name = some own) :
    ∃ rest, ls.passed name = own :: rest ∧
      ∀ logger, logger ∈ rest ↔ ∃ above, ls.Above name above ∧ ls.find? above = some logger := by
  unfold passed upward
  rw [h, Option.toList_some, List.singleton_append]
  refine ⟨_, rfl, fun logger => ?_⟩
  simp only [Above, Relation.TransGen.head'_iff]
  cases habove : ls.above? name with
  | none => simp
  | some next => simp [mem_upward_iff (Above.length_lt (.single habove))]

end Loggers

/-! ## Building loggers -/

/-- The place of the file that a logger was built with, if it was opened. -/
def opened {ε : Type} (built : Except ε Unit × Logs) (file : Option Path) : Option Place :=
  match built.1 with
  | .ok () => Run.placeOf built.2.files file
  | .error _ => none

/-- The outputs of a logger: the console, and perhaps a file. -/
def outputsWith (place : Option Place) : List Output := .console :: place.toList.map .file

theorem file_mem_outputsWith {place : Option Place} {p : Place} :
    .file p ∈ outputsWith place ↔ place = some p := by
  cases place <;> simp [outputsWith, eq_comm]

theorem count_console_outputsWith (place : Option Place) :
    (outputsWith place).count .console = 1 := by
  cases place <;> rfl

theorem count_file_outputsWith (place : Option Place) (p : Place) :
    (outputsWith place).count (.file p) = if place = some p then 1 else 0 := by
  cases place with
  | none => rfl
  | some q => simp [outputsWith, List.count_singleton]

/-- A logger is put in place with the console and the file that was opened, if one was. -/
theorem Logs.exists_install_eq (logs : Logs) (runId : String) (level : Level)
    (file : Option Path) :
    ∃ files place,
      (logs.install runId level file).2 =
        { logs with files }.put runId ⟨level, outputsWith place⟩ ∧
      opened (logs.install runId level file) file = place ∧
      ((logs.install runId level file).1 = .ok () → ∀ path, file = some path →
        ∃ p, place = some p ∧ files.locate path = .ok p) ∧
      (∀ p, place = some p → files.HasFile p ∧
        files.get? p = some (FileTree.FileEntry.append "" (logs.files.get? p))) ∧
      ∀ p, logs.files.HasFile p → files.HasFile p := by
  unfold Logs.install
  cases file with
  | none => exact ⟨logs.files, none, rfl, rfl, nofun, nofun, fun p hp => hp⟩
  | some path =>
    cases happend : logs.files.append path "" with
    | error fault =>
      simp only [happend]
      exact ⟨logs.files, none, rfl, rfl, nofun, nofun, fun p hp => hp⟩
    | ok appended =>
      obtain ⟨files, place⟩ := appended
      obtain ⟨hplace, hentry, hkept⟩ := FileTree.hasFile_of_append happend
      have hlocate := (FileTree.append_eq_ok happend).2
      simp only [happend]
      refine ⟨files, some place, rfl, ?_, ?_, ?_, hkept⟩
      · exact Run.placeOf_eq_some_iff.mpr ⟨path, rfl, hlocate⟩
      · rintro - _ ⟨⟩
        exact ⟨place, rfl, hlocate⟩
      · rintro p ⟨⟩
        exact ⟨hplace, hentry⟩

/-- Building a logger replaces it, or leaves it as it was if there is no such level. -/
theorem Logs.build_cases (logs : Logs) (runId levelName : String) (file : Option Path) :
    (Level.ofName? (uppered levelName) = none ∧
      (logs.build runId levelName file).2 =
        logs.put runId ((logs.loggers.find? (runName runId)).getD ⟨.unset, []⟩)) ∨
    ∃ level files place, Level.ofName? (uppered levelName) = some level ∧
      (logs.build runId levelName file).2 =
        { logs with files }.put runId ⟨level, outputsWith place⟩ ∧
      opened (logs.build runId levelName file) file = place ∧
      (∀ p, place = some p → files.HasFile p) ∧
      ∀ p, logs.files.HasFile p → files.HasFile p := by
  unfold Logs.build
  cases hlevel : Level.ofName? (uppered levelName) with
  | none => exact .inl ⟨rfl, rfl⟩
  | some level =>
    obtain ⟨files, place, hinstall, hopened, -, hplace, hkept⟩ :=
      logs.exists_install_eq runId level file
    refine .inr ⟨level, files, place, rfl, hinstall, ?_, fun p hp => (hplace p hp).1, hkept⟩
    rw [← hopened]
    unfold opened
    dsimp only
    cases (logs.install runId level file).1 <;> rfl

end Sequencer.Log
