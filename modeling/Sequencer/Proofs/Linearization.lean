import Mathlib.Data.List.Basic
import Sequencer.Proofs.Progress

/-!
# Linearizability

What the invariant of systems says about their calls, in terms of runs of a session: a row is an
order of calls that keeps the order in which they took the lock, and has calls that did not take it
anywhere. Along a row every call reports what it reported to its thread (`report_eq`), and the
generator ends up the same (`generator_eq`).
-/

namespace Sequencer

namespace Shared

open Session (Report)

/-! ## Rows of calls -/

/-- The calls of a row are of the programs, and those among them that take the lock are the given
ones in the given order. -/
structure IsRow (ceiling : Int) (programs : List (List Call)) (order row : List Ticket) :
    Prop where
  calls : ∀ t ∈ row, t.IsOf programs
  taking : row.filter (·.call.takesLock ceiling) = order

/-- Whether a call that reports this wrote the value. -/
def wrote (report : Report) : Bool :=
  match report.result with
  | .ok (.identifier _) | .ok .done => true
  | _ => false

/-- A call that did not write the value left the counter as it was. -/
theorem Call.alone_of_not_wrote {g : Generator} {call : Call}
    (h : wrote (call.alone g).1 = false) : (call.alone g).2.counter = g.counter := by
  cases call with
  | generate =>
    rw [alone_generate] at h ⊢
    rcases g.generate_cases with ⟨fault, sources, he, -⟩ | ⟨stamp, suffix, -, -, -, he⟩
    · rw [he]
    · rw [he] at h
      cases h
  | force value =>
    rw [alone_force] at h ⊢
    split at h
    · cases h
    · rename_i hrange
      rw [if_neg hrange]
  | current => rfl

theorem wrote_of_identifier {report : Report} {text : String}
    (h : report.result = .ok (.identifier text)) : wrote report = true := by
  unfold wrote
  rw [h]

/-- Between two calls of which the first wrote the value, some call wrote it last. -/
theorem last_write {g : Generator} {row : List Ticket} {k m : Nat} {t : Ticket} (hkm : k < m)
    (hm : m ≤ row.length) (ht : row[k]? = some t)
    (hwrote : wrote (t.call.alone (after g (row.take k))).1 = true) :
    ∃ r u, k ≤ r ∧ r < m ∧ row[r]? = some u ∧
      wrote (u.call.alone (after g (row.take r))).1 = true ∧
      (after g (row.take m)).counter = (after g (row.take (r + 1))).counter := by
  induction m with
  | zero => omega
  | succ m ih =>
    have hat := List.getElem?_eq_getElem (by omega : m < row.length)
    by_cases hlast : wrote (row[m].call.alone (after g (row.take m))).1 = true
    · exact ⟨m, row[m], by omega, by omega, hat, hlast, rfl⟩
    · have hlt : k < m := by
        rcases Nat.lt_or_ge k m with hlt | hge
        · exact hlt
        · obtain rfl : k = m := by omega
          rw [hat] at ht
          cases ht
          exact absurd hwrote hlast
      obtain ⟨r, u, hkr, hrm, hu, hwriter, heq⟩ := ih hlt (by omega)
      refine ⟨r, u, hkr, by omega, hu, hwriter, ?_⟩
      rw [← heq, List.take_succ_eq_append_getElem (by omega), after_append]
      exact Call.alone_of_not_wrote (by simpa using hlast)

/-! ## A call at its place -/

theorem eq_take_append_cons_drop {row : List Ticket} {k : Nat} {t : Ticket}
    (h : row[k]? = some t) : row = row.take k ++ t :: row.drop (k + 1) := by
  obtain ⟨hlt, rfl⟩ := List.getElem?_eq_some_iff.mp h
  rw [← List.drop_eq_getElem_cons hlt, List.take_append_drop]

/-- A ticket has one place in the order. -/
theorem front_eq {order front front' back back' : List Ticket} {t : Ticket}
    (ordered : order.Pairwise fun t u => t.thread = u.thread → t.number < u.number)
    (h : order = front ++ t :: back) (h' : order = front' ++ t :: back') : front = front' := by
  subst h
  obtain ⟨-, hback, hacross⟩ := List.pairwise_append.mp ordered
  have hfront : t ∉ front := by
    intro hmem
    exact Nat.lt_irrefl _ (hacross t hmem t List.mem_cons_self rfl)
  have hrest : t ∉ back := by
    intro hmem
    exact Nat.lt_irrefl _ ((List.pairwise_cons.mp hback).1 t hmem rfl)
  exact ((List.append_cons_inj_of_notMem hfront hrest).mp h').1

namespace System.Consistent

variable {g : Generator} {programs : List (List Call)} {s : System}

theorem answered (h : s.Consistent g programs) {t : Ticket} {report : Report}
    (hof : t.IsOf programs) (hr : s.report? t = some report) :
    Answered g s.order t report := by
  obtain ⟨program, hprogram, hcall⟩ := hof
  obtain ⟨th, found, hreport⟩ := Option.bind_eq_some_iff.mp hr
  obtain ⟨program', hprogram', hagrees⟩ := h.threads t.thread th found
  rw [hprogram] at hprogram'
  cases hprogram'
  obtain ⟨call, hcall', hanswered⟩ := hagrees.answered t.number report hreport
  rw [hcall] at hcall'
  cases hcall'
  exact hanswered

/-- A call that ended reported what it does alone at its place in any row. -/
theorem report_eq (h : s.Consistent g programs) {row : List Ticket} {k : Nat} {t : Ticket}
    {report : Report} (hrow : IsRow g.counter.ceiling programs s.order row)
    (ht : row[k]? = some t) (hr : s.report? t = some report) :
    report = (t.call.alone (after g (row.take k))).1 := by
  have hceiling := after_ceiling g (row.take k)
  rcases h.answered (hrow.calls t (List.mem_of_getElem? ht)) hr with
    hrejected | ⟨front, back, horder, hreport⟩
  -- No call changes the ceiling, so a value is rejected anywhere in the row.
  · rw [← Call.prepare_congr hceiling] at hrejected
    rw [Call.alone_of_rejected hrejected]
  -- What is left of the row in front of the call is what the order has in front of it.
  · have htakes := (h.issued t (by rw [horder]; simp)).2
    have hsplit := hrow.taking
    rw [eq_take_append_cons_drop ht, List.filter_append, List.filter_cons, if_pos htakes]
      at hsplit
    have hfront := front_eq h.ordered horder hsplit.symm
    rw [hreport, hfront, after_filter]

/-- While the lock is free the generator is where any row leads. -/
theorem generator_eq (h : s.Consistent g programs) {row : List Ticket}
    (hrow : IsRow g.counter.ceiling programs s.order row) (free : s.holder = none) :
    after g row = s.generator := by
  rw [h.free free, ← hrow.taking, after_filter]

theorem holder_eq_none (h : s.Consistent g programs) (hs : s.Ended) : s.holder = none := by
  cases hholder : s.holder with
  | none => rfl
  | some i =>
    obtain ⟨th, _, _, _, _, found, _, next, -⟩ := h.held i hholder
    rw [hs th (List.mem_of_getElem? found)] at next
    cases next

theorem mem_order (h : s.Consistent g programs) {t : Ticket} {report : Report}
    (hof : t.IsOf programs) (hr : s.report? t = some report)
    (htakes : t.call.takesLock g.counter.ceiling = true) : t ∈ s.order := by
  rcases h.answered hof hr with hrejected | ⟨front, back, horder, -⟩
  · rw [Call.not_takesLock_of_prepare hrejected] at htakes
    cases htakes
  · rw [horder]
    simp

/-- Once all calls have ended, each has its report. -/
theorem exists_report (h : s.Consistent g programs) (hs : s.Ended) {t : Ticket}
    (hof : t.IsOf programs) : ∃ report, s.report? t = some report := by
  obtain ⟨program, hprogram, hcall⟩ := hof
  have hthread := (List.getElem?_eq_some_iff.mp hprogram).1
  rw [← h.width] at hthread
  have found := List.getElem?_eq_getElem hthread
  obtain ⟨program', hprogram', hagrees⟩ := h.threads t.thread _ found
  rw [hprogram] at hprogram'
  cases hprogram'
  obtain ⟨past, hpast, hlen⟩ := hagrees.past
  rw [hs _ (List.mem_of_getElem? found), List.append_nil] at hpast
  have hnumber := (List.getElem?_eq_some_iff.mp hcall).1
  rw [hpast, hlen] at hnumber
  exact ⟨_, Option.bind_eq_some_iff.mpr ⟨_, found, List.getElem?_eq_getElem hnumber⟩⟩

end System.Consistent

/-! ## Linearizability -/

/-- A run of the calls of a row on a session tells how they went for the threads. -/
structure Explains (g : Generator) (s : System) (row : List Ticket)
    (runs : List (Report × Session)) : Prop where
  reports : ∀ (k : Nat) (t : Ticket) (report : Report), row[k]? = some t →
    s.report? t = some report → runs[k]?.map Prod.fst = some report
  /-- The same counter, the same readings and the same draws. -/
  generator : s.holder = none → before g runs row.length = s.generator
  /-- A success is composed from what the calls before it left, and the next call finds it. -/
  commits : ∀ (k : Nat) (report : Report) (session : Session) (text : String),
    runs[k]? = some (report, session) → report.result = .ok (.identifier text) →
      ∃ stamp suffix, (before g runs k).reading.stamp = .ok stamp ∧
        (before g runs k).answer.suffix = .ok suffix ∧
        text = (before g runs k).counter.compose stamp suffix ∧
        (before g runs (k + 1)).counter = { (before g runs k).counter with
          value := (before g runs k).counter.effective + 1 }
  /-- What a call finds was not written before any success that comes before it. -/
  apart : ∀ (k m : Nat) (report : Report) (session : Session) (text : String), k < m →
    m ≤ runs.length → runs[k]? = some (report, session) →
    report.result = .ok (.identifier text) →
      ∃ r writer, k ≤ r ∧ r < m ∧ runs[r]? = some writer ∧ wrote writer.1 = true ∧
        (before g runs m).counter = (before g runs (r + 1)).counter

/-- What is known of threads that share a generator, at any time. -/
structure System.Linear (fraction : Binary64) (g : Generator) (programs : List (List Call))
    (s : System) : Prop where
  issued : ∀ t ∈ s.order, t.IsOf programs ∧ t.call.takesLock g.counter.ceiling = true
  /-- Every call took the lock at most once, and those of a thread in the order of its program. -/
  ordered : s.order.Pairwise fun t u => t.thread = u.thread → t.number < u.number
  taken : ∀ (t : Ticket) (report : Report), t.IsOf programs → s.report? t = some report →
    t.call.takesLock g.counter.ceiling = true → t ∈ s.order
  serial : ∀ row, IsRow g.counter.ceiling programs s.order row →
    Explains g s row (Session.run fraction ⟨g, []⟩ (row.map (·.call.toSession)))
  exclusive : ∀ (i j : Nat) (th u : Thread) (point place : Inside), s.threads[i]? = some th →
    s.threads[j]? = some u → th.stage = .inside point → u.stage = .inside place → i = j
  /-- Every schedule can be continued until all calls have ended. -/
  canEnd : ∃ more, (s.run more).Ended
  released : s.Ended → s.holder = none
  reported : s.Ended → ∀ t : Ticket, t.IsOf programs → ∃ report, s.report? t = some report

theorem System.Consistent.explains {g : Generator} {programs : List (List Call)} {s : System}
    (h : s.Consistent g programs) (fraction : Binary64) {row : List Ticket}
    (hrow : IsRow g.counter.ceiling programs s.order row) :
    Explains g s row (Session.run fraction ⟨g, []⟩ (row.map (·.call.toSession))) := by
  constructor
  case reports =>
    intro k t report ht hr
    obtain ⟨session, hat, -⟩ := run_at fraction g ht
    rw [hat, h.report_eq hrow ht hr]
    rfl
  case generator =>
    intro free
    rw [before_run fraction g (Nat.le_refl _), List.take_length]
    exact h.generator_eq hrow free
  case commits =>
    intro k report session text hk hok
    obtain ⟨hlt, hreport⟩ := of_run_at fraction g hk
    rw [hreport] at hok
    rw [before_run fraction g (by omega), before_run fraction g (by omega),
      List.take_succ_eq_append_getElem hlt, after_append]
    exact Call.alone_identifier hok
  case apart =>
    intro k m report session text hkm hm hk hok
    rw [length_run] at hm
    obtain ⟨hlt, hreport⟩ := of_run_at fraction g hk
    have hwrote := wrote_of_identifier hok
    rw [hreport] at hwrote
    obtain ⟨r, u, hkr, hrm, hu, hwriter, heq⟩ :=
      last_write hkm hm (List.getElem?_eq_getElem hlt) hwrote
    obtain ⟨writer, hat, -⟩ := run_at fraction g hu
    refine ⟨r, _, hkr, hrm, hat, hwriter, ?_⟩
    rw [before_run fraction g hm, before_run fraction g (by omega)]
    exact heq

/-- **Linearizability.** However many threads make whatever calls on a shared generator, and in
whatever order their steps come, the calls that ended did and reported what they do one at a time
in the order in which they took the lock. -/
theorem linearizable (fraction : Binary64) (g : Generator) (programs : List (List Call))
    (schedule : List Nat) :
    ((System.start g programs).run schedule).Linear fraction g programs := by
  have h := (System.consistent_start g programs).run schedule
  constructor
  case issued => exact h.issued
  case ordered => exact h.ordered
  case taken => exact fun t report hof hr htakes => h.mem_order hof hr htakes
  case serial => exact fun row hrow => h.explains fraction hrow
  case exclusive =>
    intro i j th u point place hi hj hth hu
    exact Option.some.inj ((h.holder_eq hi hth).symm.trans (h.holder_eq hj hu))
  case canEnd => exact h.can_end
  case released => exact h.holder_eq_none
  case reported => exact fun hs t hof => h.exists_report hs hof

/-- The second thread finds the lock held and takes it when the first has given it back; the value
that is out of range is rejected meanwhile. -/
example :
    let moment : Moment := ⟨.mk 2026 7 17, .mk 12 0 0 0, none⟩
    let sources := Sources.new ⟨.reading moment, []⟩ (.scripted ⟨.value (.int 100000), []⟩)
    let s := (System.start ⟨⟨1, 1⟩, sources⟩ [[.generate], [.generate, .current], [.force 7]]).run
      ([0, 0, 1, 1, 2, 0, 0, 0, 0, 0, 0] ++ List.replicate 12 1)
    s.threads.map Thread.todo = [[], [], []] ∧ s.generator.counter = ⟨1, 1⟩ ∧
      s.order = [⟨0, 0, .generate⟩, ⟨1, 0, .generate⟩, ⟨1, 1, .current⟩] := by
  decide +kernel

end Shared

end Sequencer
