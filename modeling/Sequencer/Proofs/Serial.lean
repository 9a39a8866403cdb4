import Sequencer.Generator.Shared
import Sequencer.Proofs.Generation

/-!
# Calls made one at a time

What a call of a thread does when no other comes between: `Call.alone`, a step of a session. The
locked part of a call comes to the same (`ends_enter`), whatever its thread did before it had the
lock; a call that does not take the lock changes nothing (`alone_of_rejected`). `after` is where
calls in a row lead.
-/

namespace Sequencer

namespace Shared

open Session (Report)

/-- A call made alone: its report, and the generator after it. -/
def Call.alone (g : Generator) (call : Call) : Report × Generator :=
  let (report, session) := Session.step .zero ⟨g, []⟩ call.toSession
  (report, session.generator)

/-- Whether a call takes the lock: all do but those whose value is out of range. -/
def Call.takesLock (ceiling : Int) : Call → Bool
  | force value => Counter.InRange ceiling value
  | _ => true

/-! ## A call on a session -/

theorem Call.alone_generate (g : Generator) :
    Call.generate.alone g =
      (match g.generate.result with
        | .ok identifier => made g.counter identifier
        | .error fault => failed fault, g.generate.generator) := by
  have hn : g.generate.notices = g.counter.notices g.generate.result := rfl
  unfold alone toSession Session.step Session.deliver
  dsimp only
  rw [hn]
  cases g.generate.result with
  | ok identifier => rfl
  | error fault => rfl

theorem Call.alone_force (g : Generator) (value : Int) :
    (Call.force value).alone g =
      if Counter.InRange g.counter.ceiling value then
        (.quiet (.ok .done), { g with counter := { g.counter with value } })
      else (.quiet (.error (.counter (.outOfRange value g.counter.ceiling))), g) := by
  unfold alone toSession Session.step Counter.force
  by_cases h : Counter.InRange g.counter.ceiling value
  · simp only [h, if_true]
    rfl
  · simp only [h, if_false]

/-- What a session delivered before and how long waits are does not matter to a call. -/
theorem Call.step_toSession (fraction : Binary64) (s : Session) (call : Call) :
    (s.step fraction call.toSession).1 = (call.alone s.generator).1 ∧
      (s.step fraction call.toSession).2.generator = (call.alone s.generator).2 := by
  cases call with
  | generate =>
    unfold alone toSession Session.step Session.deliver
    dsimp only
    cases s.generator.generate.result with
    | ok identifier => exact ⟨rfl, rfl⟩
    | error fault => exact ⟨rfl, rfl⟩
  | force value =>
    unfold alone toSession Session.step
    dsimp only
    cases s.generator.counter.force value with
    | ok counter => exact ⟨rfl, rfl⟩
    | error fault => exact ⟨rfl, rfl⟩
  | current => exact ⟨rfl, rfl⟩

/-- No call changes the ceiling. -/
theorem Call.alone_ceiling (g : Generator) (call : Call) :
    (call.alone g).2.counter.ceiling = g.counter.ceiling := by
  cases call with
  | generate =>
    rw [alone_generate]
    rcases g.generate_cases with ⟨_, _, he, -⟩ | ⟨_, _, _, _, _, he⟩
    · rw [he]
    · rw [he]
  | force value =>
    rw [alone_force]
    split
    · rfl
    · rfl
  | current => rfl

/-- A call that answers an identifier made it of what the generator held and answered, and its
commit is one more than the value it was made of. -/
theorem Call.alone_identifier {g : Generator} {call : Call} {text : String}
    (h : (call.alone g).1.result = .ok (.identifier text)) :
    ∃ stamp suffix, g.reading.stamp = .ok stamp ∧ g.answer.suffix = .ok suffix ∧
      text = g.counter.compose stamp suffix ∧
      (call.alone g).2.counter = { g.counter with value := g.counter.effective + 1 } := by
  cases call with
  | generate =>
    rw [alone_generate] at h ⊢
    rcases g.generate_cases with ⟨fault, sources, he, -⟩ | ⟨stamp, suffix, hs, hr, -, he⟩
    · rw [he] at h
      cases h
    · rw [he] at h ⊢
      cases h
      exact ⟨stamp, suffix, hs, hr, rfl, rfl⟩
  | force value =>
    rw [alone_force] at h
    split at h
    · cases h
    · cases h
  | current => cases h

/-! ## The part before the lock -/

theorem Call.prepare_force (counter : Counter) (value : Int) :
    (Call.force value).prepare counter =
      if Counter.InRange counter.ceiling value then .ok (.force value)
      else .error (.quiet (.error (.counter (.outOfRange value counter.ceiling)))) := by
  unfold prepare Counter.force
  by_cases h : Counter.InRange counter.ceiling value
  · simp only [h, if_true]
  · simp only [h, if_false]

/-- Only the ceiling decides how a call goes on. -/
theorem Call.prepare_congr {c d : Counter} (h : c.ceiling = d.ceiling) (call : Call) :
    call.prepare c = call.prepare d := by
  cases call with
  | generate => rw [prepare, prepare, h]
  | force value => rw [prepare_force, prepare_force, h]
  | current => rfl

theorem Call.takesLock_of_prepare {counter : Counter} {call : Call} {request : Request}
    (h : call.prepare counter = .ok request) :
    call.takesLock counter.ceiling = true ∧ request.call = call := by
  cases call with
  | generate => cases h; exact ⟨rfl, rfl⟩
  | force value =>
    rw [prepare_force] at h
    split at h
    · rename_i hrange
      cases h
      exact ⟨decide_eq_true hrange, rfl⟩
    · cases h
  | current => cases h; exact ⟨rfl, rfl⟩

theorem Call.not_takesLock_of_prepare {counter : Counter} {call : Call} {report : Report}
    (h : call.prepare counter = .error report) : call.takesLock counter.ceiling = false := by
  cases call with
  | generate => cases h
  | force value =>
    rw [prepare_force] at h
    split at h
    · cases h
    · rename_i hrange
      exact decide_eq_false hrange
  | current => cases h

/-- A call that ends before the lock does alone what it does there: nothing. -/
theorem Call.alone_of_rejected {g : Generator} {call : Call} {report : Report}
    (h : call.prepare g.counter = .error report) : call.alone g = (report, g) := by
  cases call with
  | generate => cases h
  | force value =>
    rw [prepare_force] at h
    rw [alone_force]
    split at h
    · cases h
    · rename_i hrange
      cases h
      rw [if_neg hrange]
  | current => cases h

/-! ## The locked part -/

/-- From this point on, the thread that holds the lock gives it back with this report and this
generator. -/
inductive Inside.Ends : Inside → Generator → Report → Generator → Prop
  | leaving (report : Report) (g : Generator) : Ends (.leaving report) g report g
  | step {point : Inside} {g g' : Generator} {report : Report}
      (rest : Ends (point.advance g).1 (point.advance g).2 report g') : Ends point g report g'

namespace Inside.Ends

variable {point : Inside} {g g' : Generator} {report report' : Report}

theorem advance (h : point.Ends g report g') :
    (point.advance g).1.Ends (point.advance g).2 report g' := by
  cases h with
  | leaving => exact .leaving report g
  | step rest => exact rest

theorem eq_of_leaving (h : (Inside.leaving report').Ends g report g') :
    report' = report ∧ g = g' := by
  generalize hk : Inside.leaving report' = point at h
  induction h with
  | leaving => cases hk; exact ⟨rfl, rfl⟩
  | step _ ih => subst hk; exact ih rfl

end Inside.Ends

/-- The locked part of a generation is a generation. -/
theorem ends_generate (g : Generator) :
    (Inside.entered g.counter.ceiling).Ends g (Call.generate.alone g).1
      (Call.generate.alone g).2 := by
  rw [Call.alone_generate]
  apply Inside.Ends.step
  cases hs : g.reading.stamp with
  | error fault =>
    have hadvance : (Inside.entered g.counter.ceiling).advance g =
        (.leaving (failed (.clock fault)), { g with sources := g.clockAsked }) := by
      unfold Generator.reading at hs
      simp only [Inside.advance, hs]
      rfl
    rw [hadvance, Generator.generate_of_noStamp hs]
    exact .leaving _ _
  | ok stamp =>
    have hadvance : (Inside.entered g.counter.ceiling).advance g =
        (.stamped g.counter.ceiling stamp, { g with sources := g.clockAsked }) := by
      unfold Generator.reading at hs
      simp only [Inside.advance, hs]
      rfl
    rw [hadvance]
    -- The value that is read is still the one at the time of entry.
    apply Inside.Ends.step
    show (Inside.counted g.counter stamp).Ends { g with sources := g.clockAsked } _ _
    apply Inside.Ends.step
    cases hr : g.answer.suffix with
    | error fault =>
      have hdraw : (Inside.counted g.counter stamp).advance { g with sources := g.clockAsked } =
          (.leaving (failed fault), { g with sources := g.bothAsked }) := by
        unfold Generator.answer at hr
        simp only [Inside.advance, Generator.clockAsked, hr]
        rfl
      rw [hdraw, Generator.generate_of_noSuffix hs hr]
      exact .leaving _ _
    | ok suffix =>
      have hdraw : (Inside.counted g.counter stamp).advance { g with sources := g.clockAsked } =
          (.drawn g.counter stamp suffix, { g with sources := g.bothAsked }) := by
        unfold Generator.answer at hr
        simp only [Inside.advance, Generator.clockAsked, hr]
        rfl
      rw [hdraw]
      apply Inside.Ends.step
      cases hw : Identifier.wellFormed g.counter.ceiling (g.counter.compose stamp suffix) with
      | false =>
        rw [Generator.generate_of_malformed hs hr hw]
        simp only [Inside.advance, hw]
        exact .leaving _ _
      | true =>
        rw [Generator.generate_of_wellFormed hs hr hw]
        simp only [Inside.advance, hw]
        apply Inside.Ends.step
        exact .leaving _ _

/-- The locked part of a call, begun on the ceiling that the generator still has, comes to what the
call does alone. -/
theorem ends_enter {g : Generator} {call : Call} {request : Request}
    (h : call.prepare g.counter = .ok request) :
    request.enter.Ends g (call.alone g).1 (call.alone g).2 := by
  cases call with
  | generate =>
    cases h
    exact ends_generate g
  | force value =>
    rw [Call.prepare_force] at h
    rw [Call.alone_force]
    split at h
    · rename_i hrange
      cases h
      rw [if_pos hrange]
      apply Inside.Ends.step
      exact .leaving _ _
    · cases h
  | current =>
    cases h
    apply Inside.Ends.step
    exact .leaving _ _

/-! ## Calls in a row -/

/-- The generator after calls made one at a time. -/
def after (g : Generator) (row : List Ticket) : Generator :=
  row.foldl (fun g t => (t.call.alone g).2) g

theorem after_append (g : Generator) (first second : List Ticket) :
    after g (first ++ second) = after (after g first) second := List.foldl_append

theorem after_ceiling (g : Generator) (row : List Ticket) :
    (after g row).counter.ceiling = g.counter.ceiling := by
  induction row generalizing g with
  | nil => rfl
  | cons t rest ih =>
    show (after (t.call.alone g).2 rest).counter.ceiling = _
    rw [ih, Call.alone_ceiling]

/-- Calls that do not take the lock may stand anywhere in the row. -/
theorem after_filter (g : Generator) (row : List Ticket) :
    after g (row.filter (·.call.takesLock g.counter.ceiling)) = after g row := by
  induction row generalizing g with
  | nil => rfl
  | cons t rest ih =>
    have hrest := ih (t.call.alone g).2
    rw [Call.alone_ceiling] at hrest
    cases ht : t.call.takesLock g.counter.ceiling with
    | true =>
      rw [List.filter_cons, if_pos ht]
      exact hrest
    | false =>
      rw [List.filter_cons, if_neg (by rw [ht]; decide)]
      cases hk : t.call.prepare g.counter with
      | ok request =>
        have htakes := (Call.takesLock_of_prepare hk).1
        rw [ht] at htakes
        cases htakes
      | error report =>
        rw [Call.alone_of_rejected hk] at hrest
        show _ = after (t.call.alone g).2 rest
        rw [Call.alone_of_rejected hk]
        exact hrest

/-- Calls in a row on a session, one by one. -/
theorem run_getElem? (fraction : Binary64) (s : Session) (row : List Ticket) (k : Nat) :
    ((s.run fraction (row.map (·.call.toSession)))[k]?).map (fun r => (r.1, r.2.generator)) =
      row[k]?.map fun t => t.call.alone (after s.generator (row.take k)) := by
  -- On the row, for every session: the first call moves the session that the others start from.
  induction row generalizing s k with
  | nil => simp [Session.run]
  | cons t rest ih =>
    obtain ⟨hreport, hgen⟩ := t.call.step_toSession fraction s
    cases k with
    | zero => simp [Session.run, after, hreport, hgen]
    | succ k =>
      simp only [List.map_cons, Session.run, List.getElem?_cons_succ, List.take_succ_cons]
      rw [ih, hgen]
      rfl

theorem length_run (fraction : Binary64) (s : Session) (row : List Ticket) :
    (s.run fraction (row.map (·.call.toSession))).length = row.length := by
  induction row generalizing s with
  | nil => rfl
  | cons t rest ih =>
    simp only [List.map_cons, Session.run, List.length_cons, ih]

/-- The generator before the call at a place of a run that began with the given one. -/
def before (g : Generator) (runs : List (Report × Session)) : Nat → Generator
  | 0 => g
  | k + 1 =>
    match runs[k]? with
    | some (_, s) => s.generator
    | none => g

section

variable (fraction : Binary64) (g : Generator) {row : List Ticket} {k : Nat} {t : Ticket}

/-- The call at a place of a run, which does what it does alone. -/
theorem run_at (h : row[k]? = some t) :
    ∃ s, (Session.run fraction ⟨g, []⟩ (row.map (·.call.toSession)))[k]? =
        some ((t.call.alone (after g (row.take k))).1, s) ∧
      s.generator = (t.call.alone (after g (row.take k))).2 := by
  have hrun := run_getElem? fraction ⟨g, []⟩ row k
  rw [h, Option.map_some, Option.map_eq_some_iff] at hrun
  obtain ⟨⟨report, s⟩, hat, heq⟩ := hrun
  rw [hat, ← heq]
  exact ⟨s, rfl, rfl⟩

theorem of_run_at {report : Report} {session : Session}
    (h : (Session.run fraction ⟨g, []⟩ (row.map (·.call.toSession)))[k]? =
      some (report, session)) :
    ∃ hlt : k < row.length, report = (row[k].call.alone (after g (row.take k))).1 := by
  have hlt := (List.getElem?_eq_some_iff.mp h).1
  rw [length_run] at hlt
  obtain ⟨session', hat, -⟩ := run_at fraction g (List.getElem?_eq_getElem hlt)
  rw [h] at hat
  cases hat
  exact ⟨hlt, rfl⟩

theorem before_run (hk : k ≤ row.length) :
    before g (Session.run fraction ⟨g, []⟩ (row.map (·.call.toSession))) k =
      after g (row.take k) := by
  cases k with
  | zero => rfl
  | succ k =>
    have hat := List.getElem?_eq_getElem (by omega : k < row.length)
    obtain ⟨s, hrun, hgen⟩ := run_at fraction g hat
    rw [before, hrun, List.take_succ_eq_append_getElem (by omega), after_append]
    exact hgen

end

end Shared

end Sequencer
