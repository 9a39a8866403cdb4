import Sequencer.Proofs.Serial

/-!
# Threads that share a generator

Whatever the schedule, the calls come to what they do one at a time in the order in which they took
the lock. `Moves` lists all that a step can do. `Consistent` is the invariant: every report of a
thread is what its call does alone at its place in the order, the generator is where the order
leads while the lock is free, and while it is held the holder is on its way there
(`Inside.Ends`). Each kind of step keeps it, and so does a run.
-/

namespace Sequencer

namespace Shared

open Session (Report)

/-! ## What one step does -/

/-- What a step of a thread can do to a system. -/
inductive Moves (s : System) (i : Nat) : System → Prop
  /-- There is no such thread, it has ended, or it waits for a lock that is held. -/
  | stays
      (why : ∀ th, s.threads[i]? = some th → (th.stage = .idle ∧ th.todo = []) ∨
        (∃ request, th.stage = .waiting request) ∧ s.holder ≠ none) :
      Moves s i s
  | rejects {th : Thread} {call : Call} {rest : List Call} {report : Report}
      (found : s.threads[i]? = some th) (idle : th.stage = .idle) (next : th.todo = call :: rest)
      (rejected : call.prepare s.generator.counter = .error report) :
      Moves s i (s.put i (th.ended report))
  | prepares {th : Thread} {call : Call} {rest : List Call} {request : Request}
      (found : s.threads[i]? = some th) (idle : th.stage = .idle) (next : th.todo = call :: rest)
      (prepared : call.prepare s.generator.counter = .ok request) :
      Moves s i (s.put i { th with stage := .waiting request })
  | takes {th : Thread} {request : Request} (found : s.threads[i]? = some th)
      (waiting : th.stage = .waiting request) (free : s.holder = none) :
      Moves s i { s.put i { th with stage := .inside request.enter } with
        holder := some i
        order := s.order ++ [⟨i, th.reports.length, request.call⟩] }
  | advances {th : Thread} {point : Inside} (found : s.threads[i]? = some th)
      (inside : th.stage = .inside point) (goesOn : ∀ report, point ≠ .leaving report) :
      Moves s i { s.put i { th with stage := .inside (point.advance s.generator).1 } with
        generator := (point.advance s.generator).2 }
  | leaves {th : Thread} {report : Report} (found : s.threads[i]? = some th)
      (inside : th.stage = .inside (.leaving report)) :
      Moves s i { s.put i (th.ended report) with holder := none }

theorem moves_step (s : System) (i : Nat) : Moves s i (s.step i) := by
  unfold System.step
  cases found : s.threads[i]? with
  | none =>
    refine .stays fun th h => ?_
    rw [found] at h
    cases h
  | some th =>
    dsimp only
    cases hstage : th.stage with
    | idle =>
      dsimp only [Thread.begin]
      cases next : th.todo with
      | nil =>
        have hsame : s.put i th = s := by
          have hset : s.threads.set i th = s.threads := by
            rw [List.getElem?_eq_some_iff] at found
            obtain ⟨hlt, rfl⟩ := found
            exact List.set_getElem_self hlt
          unfold System.put
          rw [hset]
        rw [hsame]
        refine .stays fun u h => .inl ?_
        rw [found] at h
        cases h
        exact ⟨hstage, next⟩
      | cons call rest =>
        dsimp only
        cases prepared : call.prepare s.generator.counter with
        | error report => exact .rejects found hstage next prepared
        | ok request =>
          have hmoves := Moves.prepares found hstage next prepared
          rw [next] at hmoves
          exact hmoves
    | waiting request =>
      cases hholder : s.holder with
      | none => exact .takes found hstage hholder
      | some j =>
        refine .stays fun u h => .inr ?_
        rw [found] at h
        cases h
        exact ⟨⟨request, hstage⟩, by rw [hholder]; simp⟩
    | inside point =>
      cases point with
      | leaving report => exact .leaves found hstage
      | entered ceiling => exact .advances found hstage (by simp)
      | stamped ceiling stamp => exact .advances found hstage (by simp)
      | counted seen stamp => exact .advances found hstage (by simp)
      | drawn seen stamp suffix => exact .advances found hstage (by simp)
      | composed seen identifier => exact .advances found hstage (by simp)
      | setting value => exact .advances found hstage (by simp)
      | looking => exact .advances found hstage (by simp)

/-- No step of the holder changes the ceiling. -/
theorem advance_ceiling (point : Inside) (g : Generator) :
    (point.advance g).2.counter.ceiling = g.counter.ceiling := by
  cases point with
  | entered ceiling =>
    dsimp only [Inside.advance]
    split <;> rfl
  | counted seen stamp =>
    dsimp only [Inside.advance]
    split <;> rfl
  | drawn seen stamp suffix =>
    dsimp only [Inside.advance]
    split <;> rfl
  | stamped ceiling stamp => rfl
  | composed seen identifier => rfl
  | setting value => rfl
  | looking => rfl
  | leaving report => rfl

theorem eq_or_ne_of_getElem?_set {threads : List Thread} {i j : Nat} {th u : Thread}
    (h : (threads.set i th)[j]? = some u) :
    (i = j ∧ u = th) ∨ (i ≠ j ∧ threads[j]? = some u) := by
  rw [List.getElem?_set] at h
  split at h
  · rename_i hij
    split at h
    · cases h
      exact .inl ⟨hij, rfl⟩
    · cases h
  · rename_i hij
    exact .inr ⟨hij, h⟩

/-! ## Threads and the order -/

/-- A call got this report before the lock, or at its place in the order. -/
def Answered (g : Generator) (order : List Ticket) (t : Ticket) (report : Report) : Prop :=
  t.call.prepare g.counter = .error report ∨
    ∃ front back, order = front ++ t :: back ∧ report = (t.call.alone (after g front)).1

theorem Answered.append {g : Generator} {order : List Ticket} {t : Ticket} {report : Report}
    (h : Answered g order t report) (extra : List Ticket) :
    Answered g (order ++ extra) t report := by
  rcases h with hrejected | ⟨front, back, rfl, hreport⟩
  · exact .inl hrejected
  · exact .inr ⟨front, back ++ extra, by simp, hreport⟩

/-- The thread with this program and this place in the system, which may hold the lock, agrees
with the order of the calls that took it. -/
structure Thread.Agrees (g : Generator) (order : List Ticket) (holds : Prop) (i : Nat)
    (program : List Call) (th : Thread) : Prop where
  past : ∃ past, program = past ++ th.todo ∧ past.length = th.reports.length
  waiting : ∀ request, th.stage = .waiting request →
    ∃ rest, th.todo = request.call :: rest ∧ request.call.prepare g.counter = .ok request
  inside : ∀ point, th.stage = .inside point → holds
  answered : ∀ (n : Nat) (report : Report), th.reports[n]? = some report →
    ∃ call, program[n]? = some call ∧ Answered g order ⟨i, n, call⟩ report
  tickets : ∀ t ∈ order, t.thread = i →
    t.number < th.reports.length ∨ (t.number = th.reports.length ∧ holds)

namespace Thread.Agrees

variable {g : Generator} {order : List Ticket} {holds : Prop} {i : Nat} {program : List Call}
  {th : Thread}

/-- The call under way in the program. -/
theorem next_call (h : th.Agrees g order holds i program) {call : Call} {rest : List Call}
    (next : th.todo = call :: rest) : program[th.reports.length]? = some call := by
  obtain ⟨past, rfl, hlen⟩ := h.past
  rw [← hlen, next, List.getElem?_append_right (Nat.le_refl _), Nat.sub_self]
  rfl

/-- What other threads do is no matter to a thread. -/
theorem frame (h : th.Agrees g order holds i program) {extra : List Ticket} {holds' : Prop}
    (others : ∀ t ∈ extra, t.thread ≠ i) (keeps : holds → holds') :
    th.Agrees g (order ++ extra) holds' i program where
  past := h.past
  waiting := h.waiting
  inside point hp := keeps (h.inside point hp)
  answered n report hn := by
    obtain ⟨call, hcall, hanswered⟩ := h.answered n report hn
    exact ⟨call, hcall, hanswered.append extra⟩
  tickets t ht hi := by
    rcases List.mem_append.mp ht with hold | hnew
    · rcases h.tickets t hold hi with hlt | ⟨heq, hholds⟩
      · exact .inl hlt
      · exact .inr ⟨heq, keeps hholds⟩
    · exact absurd hi (others t hnew)

/-- The thread goes on with its call. -/
theorem withStage (h : th.Agrees g order holds i program) {stage : Stage}
    (waiting : ∀ request, stage = .waiting request →
      ∃ rest, th.todo = request.call :: rest ∧ request.call.prepare g.counter = .ok request)
    (inside : ∀ point, stage = .inside point → holds) :
    ({ th with stage } : Thread).Agrees g order holds i program where
  past := h.past
  waiting := waiting
  inside := inside
  answered := h.answered
  tickets := h.tickets

/-- The thread takes the lock. -/
theorem entered (h : th.Agrees g order holds i program) (free : ¬ holds) (point : Inside)
    (call : Call) {holds' : Prop} (now : holds') :
    ({ th with stage := .inside point } : Thread).Agrees g
      (order ++ [⟨i, th.reports.length, call⟩]) holds' i program where
  past := h.past
  waiting request hw := by cases hw
  inside _ _ := now
  answered n report hn := by
    obtain ⟨call, hcall, hanswered⟩ := h.answered n report hn
    exact ⟨call, hcall, hanswered.append _⟩
  tickets t ht hi := by
    rcases List.mem_append.mp ht with hold | hnew
    · rcases h.tickets t hold hi with hlt | ⟨-, hholds⟩
      · exact .inl hlt
      · exact absurd hholds free
    · rw [List.mem_singleton.mp hnew]
      exact .inr ⟨rfl, now⟩

/-- The call under way ends with a report that fits its place. -/
theorem ended (h : th.Agrees g order holds i program) {call : Call} {rest : List Call}
    {report : Report} (next : th.todo = call :: rest)
    (hreport : Answered g order ⟨i, th.reports.length, call⟩ report) (holds' : Prop) :
    (th.ended report).Agrees g order holds' i program where
  past := by
    obtain ⟨past, hprogram, hlen⟩ := h.past
    refine ⟨past ++ [call], ?_, ?_⟩
    · simp [Thread.ended, hprogram, next]
    · simp [Thread.ended, hlen]
  waiting request hw := by cases hw
  inside point hp := by cases hp
  answered n r hn := by
    by_cases hlt : n < th.reports.length
    · unfold Thread.ended at hn
      rw [List.getElem?_append_left hlt] at hn
      exact h.answered n r hn
    · have hlen : n = th.reports.length := by
        have := (List.getElem?_eq_some_iff.mp hn).1
        simp only [Thread.ended, List.length_append, List.length_singleton] at this
        omega
      subst hlen
      unfold Thread.ended at hn
      rw [List.getElem?_concat_length] at hn
      cases hn
      exact ⟨call, h.next_call next, hreport⟩
  tickets t ht hi := by
    have hnumber := h.tickets t ht hi
    simp only [Thread.ended, List.length_append, List.length_singleton]
    omega

end Thread.Agrees

/-! ## The invariant -/

/-- The ticket is for a call of the programs. -/
def Ticket.IsOf (programs : List (List Call)) (t : Ticket) : Prop :=
  ∃ program, programs[t.thread]? = some program ∧ program[t.number]? = some t.call

/-- The invariant of systems that started with a generator on these programs. -/
structure System.Consistent (g : Generator) (programs : List (List Call)) (s : System) :
    Prop where
  ceiling : s.generator.counter.ceiling = g.counter.ceiling
  width : s.threads.length = programs.length
  threads : ∀ (i : Nat) (th : Thread), s.threads[i]? = some th →
    ∃ program, programs[i]? = some program ∧
      th.Agrees g s.order (s.holder = some i) i program
  issued : ∀ t ∈ s.order, t.IsOf programs ∧ t.call.takesLock g.counter.ceiling = true
  ordered : s.order.Pairwise fun t u => t.thread = u.thread → t.number < u.number
  /-- A free lock leaves nothing half done. -/
  free : s.holder = none → s.generator = after g s.order
  /-- Who holds the lock took it last and is on its way to what its call does alone. -/
  held : ∀ i, s.holder = some i → ∃ th point front call rest,
    s.threads[i]? = some th ∧ th.stage = .inside point ∧ th.todo = call :: rest ∧
      s.order = front ++ [⟨i, th.reports.length, call⟩] ∧
      point.Ends s.generator (call.alone (after g front)).1 (call.alone (after g front)).2

theorem System.consistent_start (g : Generator) (programs : List (List Call)) :
    (start g programs).Consistent g programs where
  ceiling := rfl
  width := by simp [start]
  threads i th h := by
    simp only [start, List.getElem?_map, Option.map_eq_some_iff] at h
    obtain ⟨program, hprogram, rfl⟩ := h
    refine ⟨program, hprogram, ⟨[], rfl, rfl⟩, ?_, ?_, ?_, ?_⟩
    · intro request hw
      cases hw
    · intro point hp
      cases hp
    · intro n report hn
      cases hn
    · intro t ht
      cases ht
  issued t ht := by cases ht
  ordered := .nil
  free _ := rfl
  held i h := by cases h

namespace System.Consistent

variable {g : Generator} {programs : List (List Call)} {s : System} {i : Nat}

/-- After a step of one thread all threads still agree if that one does. -/
theorem threads_set (h : s.Consistent g programs) {th : Thread} (th' : Thread)
    (extra : List Ticket) (holder : Option Nat) (found : s.threads[i]? = some th)
    (mine : ∀ program, programs[i]? = some program →
      th.Agrees g s.order (s.holder = some i) i program →
      th'.Agrees g (s.order ++ extra) (holder = some i) i program)
    (others : ∀ t ∈ extra, t.thread = i)
    (keeps : ∀ j, i ≠ j → s.holder = some j → holder = some j) (j : Nat) (u : Thread)
    (hu : (s.threads.set i th')[j]? = some u) :
    ∃ program, programs[j]? = some program ∧
      u.Agrees g (s.order ++ extra) (holder = some j) j program := by
  rcases eq_or_ne_of_getElem?_set hu with ⟨rfl, rfl⟩ | ⟨hne, hj⟩
  · obtain ⟨program, hprogram, hagrees⟩ := h.threads i th found
    exact ⟨program, hprogram, mine program hprogram hagrees⟩
  · obtain ⟨program, hprogram, hagrees⟩ := h.threads j u hj
    refine ⟨program, hprogram, hagrees.frame ?_ (keeps j hne)⟩
    intro t ht hthread
    exact hne ((others t ht).symm.trans hthread)

/-- The same where the order stays as it is. -/
theorem threads_set_same (h : s.Consistent g programs) {th : Thread} (th' : Thread)
    (holder : Option Nat) (found : s.threads[i]? = some th)
    (mine : ∀ program, programs[i]? = some program →
      th.Agrees g s.order (s.holder = some i) i program →
      th'.Agrees g s.order (holder = some i) i program)
    (keeps : ∀ j, i ≠ j → s.holder = some j → holder = some j) (j : Nat) (u : Thread)
    (hu : (s.threads.set i th')[j]? = some u) :
    ∃ program, programs[j]? = some program ∧ u.Agrees g s.order (holder = some j) j program := by
  have hset := h.threads_set th' [] holder found
    (by rw [List.append_nil]; exact mine) (by simp) keeps j u hu
  rw [List.append_nil] at hset
  exact hset

theorem width_set (h : s.Consistent g programs) (i : Nat) (th : Thread) :
    (s.threads.set i th).length = programs.length := by
  rw [List.length_set, h.width]

/-- A thread that does not hold the lock goes on; the holder is where it was. -/
theorem put (h : s.Consistent g programs) {th th' : Thread} (found : s.threads[i]? = some th)
    (outside : ∀ point, th.stage ≠ .inside point)
    (mine : ∀ program, programs[i]? = some program →
      th.Agrees g s.order (s.holder = some i) i program →
      th'.Agrees g s.order (s.holder = some i) i program) :
    (s.put i th').Consistent g programs where
  ceiling := h.ceiling
  width := h.width_set i th'
  threads := h.threads_set_same th' s.holder found mine fun _ _ hj => hj
  issued := h.issued
  ordered := h.ordered
  free := h.free
  held j hj := by
    obtain ⟨holder, point, front, call, rest, hfound, hinside, hrest⟩ := h.held j hj
    -- The holder is inside, so it is not the thread that goes on.
    have hne : i ≠ j := by
      rintro rfl
      rw [found] at hfound
      cases hfound
      exact outside point hinside
    refine ⟨holder, point, front, call, rest, ?_, hinside, hrest⟩
    show (s.threads.set i th')[j]? = some holder
    rw [List.getElem?_set_ne hne]
    exact hfound

theorem rejects (h : s.Consistent g programs) {th : Thread} {call : Call} {rest : List Call}
    {report : Report} (found : s.threads[i]? = some th) (idle : th.stage = .idle)
    (next : th.todo = call :: rest)
    (rejected : call.prepare s.generator.counter = .error report) :
    (s.put i (th.ended report)).Consistent g programs := by
  apply h.put found
  · intro point hp
    rw [idle] at hp
    cases hp
  · intro program _ hagrees
    rw [Call.prepare_congr h.ceiling] at rejected
    exact hagrees.ended next (.inl rejected) _

theorem prepares (h : s.Consistent g programs) {th : Thread} {call : Call} {rest : List Call}
    {request : Request} (found : s.threads[i]? = some th) (idle : th.stage = .idle)
    (next : th.todo = call :: rest)
    (prepared : call.prepare s.generator.counter = .ok request) :
    (s.put i { th with stage := .waiting request }).Consistent g programs := by
  apply h.put found
  · intro point hp
    rw [idle] at hp
    cases hp
  · intro program _ hagrees
    rw [Call.prepare_congr h.ceiling] at prepared
    obtain ⟨-, rfl⟩ := Call.takesLock_of_prepare prepared
    apply hagrees.withStage
    · intro other hw
      cases hw
      exact ⟨rest, next, prepared⟩
    · intro point hp
      cases hp

theorem takes (h : s.Consistent g programs) {th : Thread} {request : Request}
    (found : s.threads[i]? = some th) (waiting : th.stage = .waiting request)
    (free : s.holder = none) :
    ({ s.put i { th with stage := .inside request.enter } with
        holder := some i
        order := s.order ++ [⟨i, th.reports.length, request.call⟩] } :
      System).Consistent g programs := by
  obtain ⟨program, hprogram, hagrees⟩ := h.threads i th found
  obtain ⟨rest, next, prepared⟩ := hagrees.waiting request waiting
  have hout : ¬ s.holder = some i := by rw [free]; simp
  constructor
  case ceiling => exact h.ceiling
  case width => exact h.width_set i _
  case threads =>
    apply h.threads_set _ _ _ found
    · intro program _ hagrees
      exact hagrees.entered hout request.enter request.call rfl
    · intro t ht
      rw [List.mem_singleton.mp ht]
    · intro j _ hj
      rw [free] at hj
      cases hj
  case issued =>
    intro t ht
    rcases List.mem_append.mp ht with hold | hnew
    · exact h.issued t hold
    · rw [List.mem_singleton.mp hnew]
      exact ⟨⟨program, hprogram, hagrees.next_call next⟩, (Call.takesLock_of_prepare prepared).1⟩
  case ordered =>
    refine List.pairwise_append.mpr ⟨h.ordered, List.pairwise_singleton _ _, ?_⟩
    intro t ht u hu hthread
    rw [List.mem_singleton.mp hu] at hthread ⊢
    rcases hagrees.tickets t ht hthread with hnumber | ⟨-, hholds⟩
    · exact hnumber
    · exact absurd hholds hout
  case free =>
    intro hnone
    cases hnone
  case held =>
    intro j hj
    cases hj
    have hi := (List.getElem?_eq_some_iff.mp found).1
    refine ⟨_, request.enter, s.order, request.call, rest, List.getElem?_set_self hi, rfl, next,
      rfl, ?_⟩
    rw [← h.free free]
    -- The ceiling that was read before the lock is still that of the counter.
    rw [← Call.prepare_congr h.ceiling] at prepared
    exact ends_enter prepared

/-- The thread inside is the one that holds the lock. -/
theorem holder_eq (h : s.Consistent g programs) {th : Thread} {point : Inside}
    (found : s.threads[i]? = some th) (inside : th.stage = .inside point) :
    s.holder = some i := by
  obtain ⟨program, -, hagrees⟩ := h.threads i th found
  exact hagrees.inside point inside

/-- The thread inside is on its way to what its call does alone at its place. -/
theorem ends (h : s.Consistent g programs) {th : Thread} {point : Inside}
    (found : s.threads[i]? = some th) (inside : th.stage = .inside point) :
    ∃ front call rest, th.todo = call :: rest ∧
      s.order = front ++ [⟨i, th.reports.length, call⟩] ∧
      point.Ends s.generator (call.alone (after g front)).1 (call.alone (after g front)).2 := by
  obtain ⟨holder, place, front, call, rest, hfound, hplace, hrest⟩ :=
    h.held i (h.holder_eq found inside)
  rw [found] at hfound
  cases hfound
  rw [inside] at hplace
  cases hplace
  exact ⟨front, call, rest, hrest⟩

theorem advances (h : s.Consistent g programs) {th : Thread} {point : Inside}
    (found : s.threads[i]? = some th) (inside : th.stage = .inside point) :
    ({ s.put i { th with stage := .inside (point.advance s.generator).1 } with
        generator := (point.advance s.generator).2 } : System).Consistent g programs := by
  have hholder := h.holder_eq found inside
  constructor
  case ceiling =>
    rw [← h.ceiling]
    exact advance_ceiling point s.generator
  case width => exact h.width_set i _
  case threads =>
    refine h.threads_set_same _ s.holder found ?_ fun _ _ hj => hj
    intro program _ hagrees
    apply hagrees.withStage
    · intro request hw
      cases hw
    · intro _ _
      exact hholder
  case issued => exact h.issued
  case ordered => exact h.ordered
  case free =>
    intro hnone
    have hfree : s.holder = none := hnone
    rw [hholder] at hfree
    cases hfree
  case held =>
    intro j hj
    obtain rfl : i = j := Option.some.inj (hholder.symm.trans hj)
    obtain ⟨front, call, rest, next, horder, hends⟩ := h.ends found inside
    have hi := (List.getElem?_eq_some_iff.mp found).1
    exact ⟨_, _, front, call, rest, List.getElem?_set_self hi, rfl, next, horder, hends.advance⟩

theorem leaves (h : s.Consistent g programs) {th : Thread} {report : Report}
    (found : s.threads[i]? = some th) (inside : th.stage = .inside (.leaving report)) :
    ({ s.put i (th.ended report) with holder := none } : System).Consistent g programs := by
  have hholder := h.holder_eq found inside
  obtain ⟨front, call, rest, next, horder, hends⟩ := h.ends found inside
  obtain ⟨hreport, hgenerator⟩ := hends.eq_of_leaving
  constructor
  case ceiling => exact h.ceiling
  case width => exact h.width_set i _
  case threads =>
    refine h.threads_set_same _ none found ?_ ?_
    · intro program _ hagrees
      exact hagrees.ended next (.inr ⟨front, [], horder, hreport⟩) _
    · intro j hne hj
      exact absurd (Option.some.inj (hholder.symm.trans hj)) hne
  case issued => exact h.issued
  case ordered => exact h.ordered
  case free =>
    intro _
    show s.generator = after g s.order
    rw [horder, after_append, hgenerator]
    rfl
  case held =>
    intro j hj
    cases hj

theorem moves (h : s.Consistent g programs) {s' : System} (hm : Moves s i s') :
    s'.Consistent g programs := by
  cases hm with
  | stays => exact h
  | rejects found idle next rejected => exact h.rejects found idle next rejected
  | prepares found idle next prepared => exact h.prepares found idle next prepared
  | takes found waiting free => exact h.takes found waiting free
  | advances found inside => exact h.advances found inside
  | leaves found inside => exact h.leaves found inside

theorem step (h : s.Consistent g programs) (i : Nat) : (s.step i).Consistent g programs :=
  h.moves (moves_step s i)

theorem run (h : s.Consistent g programs) (schedule : List Nat) :
    (s.run schedule).Consistent g programs := by
  induction schedule generalizing s with
  | nil => exact h
  | cons i rest ih => exact ih (h.step i)

end System.Consistent

end Shared

end Sequencer
