import Pjsua.Basic

/-!
The worker thread and the shutdown handshake. `Lib.start(with_thread=True)` starts
`_worker_thread_main`, which polls the engine while `_lib._quit == 0` and then sets
`_lib._quit = 2`; `Lib.destroy()` sets `_quit = 1`, waits for `2` at most 400 polls, destroys
the engine and clears `_lib`. The atomic steps are the reads and writes of `_lib` and
`_lib._quit` and the engine calls; a run is any interleaving of the threads' steps.
-/

namespace Pjsua

/-- Where a worker is in `_worker_thread_main`. -/
inductive WorkerPc
  | register
  | check
  | readLib
  | readQuit
  | poll
  | readLibExit
  | writeQuit
  | done
  | crashed
  deriving DecidableEq, Repr

/-- Where the main thread is in `Lib.destroy()` of a `Lib` that started a worker. -/
inductive MainPc
  | setQuit
  | test
  | poll
  | teardown
  | clear
  | done
  deriving DecidableEq, Repr

inductive Tid
  | main
  | worker (i : Nat)
  deriving DecidableEq, Repr

/-- An observable step of the handshake. -/
inductive PumpEvent
  | register (i : Nat)
  | handleEvents (t : Tid)
  | destroy
  | nullDeref (i : Nat)
  deriving DecidableEq, Repr

/-- The shared state: whether `_lib` still refers to the `Lib` being destroyed, its `_quit`,
the main thread's place and its local `loop`, the workers' places, and the log. `timedOut`
records that the wait ended with `loop` at 400 rather than on reading `_quit == 2`. -/
structure Pump where
  lib : Bool
  quit : Int
  main : MainPc
  loop : Nat
  timedOut : Bool
  workers : List WorkerPc
  log : List PumpEvent
  deriving DecidableEq, Repr

namespace Pump

/-- `n` workers started and `destroy()` called; `_quit` still has its class value `False`. -/
def start (n : Nat) : Pump := ⟨true, 0, .setQuit, 0, false, List.replicate n .register, []⟩

/-- One step of `Lib.destroy()`. -/
def mainStep (p : Pump) : Pump :=
  match p.main with
  | .setQuit => { p with quit := 1, loop := 0, main := .test }
  | .test =>
      if p.quit ≠ 2 ∧ p.loop < 400 then { p with main := .poll }
      else { p with main := .teardown, timedOut := decide (p.quit ≠ 2) }
  | .poll =>
      { p with log := p.log ++ [.handleEvents .main], loop := p.loop + 1, main := .test }
  | .teardown => { p with log := p.log ++ [.destroy], main := .clear }
  | .clear => { p with lib := false, main := .done }
  | .done => p

/-- One step of worker `i` at `pc` in `_worker_thread_main`; `regErr` is the status
`_pjsua.thread_register` returns. A read of an attribute through `_lib = None` raises
`AttributeError` and ends the thread. -/
def workerStep (regErr : Int) (p : Pump) (i : Nat) (pc : WorkerPc) : Pump :=
  let move (pc' : WorkerPc) (q : Pump) : Pump := { q with workers := q.workers.set i pc' }
  let deref (pc' : WorkerPc) : Pump :=
    if p.lib then move pc' p else move .crashed { p with log := p.log ++ [.nullDeref i] }
  match pc with
  | .register => move .check { p with log := p.log ++ [.register i] }
  | .check => if p.lib ∧ regErr ≠ 0 then move .crashed p else deref .readLib
  | .readLib => deref .readQuit
  | .readQuit => move (if p.quit = 0 then .poll else .readLibExit) p
  | .poll => move .readLib { p with log := p.log ++ [.handleEvents (.worker i)] }
  | .readLibExit => deref .writeQuit
  | .writeQuit => move .done { p with quit := 2 }
  | .done | .crashed => p

/-- One step of thread `t`. -/
def step (regErr : Int) (p : Pump) : Tid → Pump
  | .main => p.mainStep
  | .worker i =>
      match p.workers[i]? with
      | some pc => p.workerStep regErr i pc
      | none => p

def run (regErr : Int) (p : Pump) (sched : List Tid) : Pump := sched.foldl (step regErr) p

theorem run_append (regErr : Int) (p : Pump) (s t : List Tid) :
    p.run regErr (s ++ t) = (p.run regErr s).run regErr t := by
  simp [run]

theorem run_cons (regErr : Int) (p : Pump) (t : Tid) (ts : List Tid) :
    p.run regErr (t :: ts) = (p.step regErr t).run regErr ts := rfl

theorem mainStep_round {p : Pump} (hm : p.main = .test) (hq : p.quit ≠ 2) (hl : p.loop < 400) :
    p.mainStep.mainStep = { p with loop := p.loop + 1, log := p.log ++ [.handleEvents .main] } := by
  cases p
  simp_all [mainStep]

theorem run_main_polls (regErr : Int) {p : Pump} (hm : p.main = .test) (hq : p.quit ≠ 2)
    {n : Nat} (hn : p.loop + n = 400) :
    p.run regErr (List.replicate (2 * n) .main) =
      { p with loop := 400, log := p.log ++ List.replicate n (.handleEvents .main) } := by
  induction n generalizing p with
  | zero =>
      cases p
      simp_all [run]
  | succ n ih =>
      rw [show 2 * (n + 1) = 2 * n + 1 + 1 by omega, List.replicate_succ, List.replicate_succ,
        run_cons, run_cons]
      simp only [step]
      rw [mainStep_round hm hq (by omega),
        ih (p := { p with loop := p.loop + 1, log := p.log ++ [.handleEvents .main] }) hm hq
          (by simp only; omega)]
      simp [List.replicate_succ]

end Pump

/-- The engine is polled after it was destroyed. -/
def PollsAfterDestroy (log : List PumpEvent) : Prop :=
  ∃ pre post t, log = pre ++ .destroy :: post ∧ .handleEvents t ∈ post

theorem pollsAfterDestroy_snoc {log : List PumpEvent} {e : PumpEvent} :
    PollsAfterDestroy (log ++ [e]) ↔
      PollsAfterDestroy log ∨ (.destroy ∈ log ∧ ∃ t, e = .handleEvents t) := by
  constructor
  · rintro ⟨pre, post, t, hlog, ht⟩
    rcases List.eq_nil_or_concat post with rfl | ⟨post', e', rfl⟩
    · simp at ht
    · rw [List.concat_eq_append, ← List.cons_append, ← List.append_assoc] at hlog
      obtain ⟨rfl, he⟩ := List.append_inj' hlog rfl
      cases he
      simp only [List.concat_eq_append, List.mem_append, List.mem_singleton] at ht
      rcases ht with ht | rfl
      · exact .inl ⟨pre, post', t, rfl, ht⟩
      · exact .inr ⟨by simp, t, rfl⟩
  · rintro (⟨pre, post, t, rfl, ht⟩ | ⟨hd, t, rfl⟩)
    · exact ⟨pre, post ++ [e], t, by simp, by simp [ht]⟩
    · obtain ⟨pre, post, rfl⟩ := List.append_of_mem hd
      exact ⟨pre, post ++ [.handleEvents t], t, by simp, by simp⟩

theorem not_pollsAfterDestroy {log : List PumpEvent} (h : PumpEvent.destroy ∉ log) :
    ¬ PollsAfterDestroy log := by
  rintro ⟨pre, post, t, rfl, -⟩
  simp at h

/-- Both workers read `_quit == 0` and stop before `handle_events`; `destroy()` sets `_quit = 1`;
the first worker polls, reads `1`, and writes `_quit = 2`; `destroy()` reads `2`, destroys the
engine and clears `_lib`; then the second worker resumes. -/
def twoWorkerSchedule : List Tid :=
  [.worker 0, .worker 0, .worker 0, .worker 0, .worker 1, .worker 1, .worker 1, .worker 1, .main,
    .worker 0, .worker 0, .worker 0, .worker 0, .worker 0, .main, .main, .main, .worker 1, .worker 1]

/-- Two ways the engine is polled after `_pjsua.destroy()` and a worker reads `_quit` through
`_lib = None`. First, one worker that has read `_quit == 0` is held before `handle_events`
while `destroy()` uses up its 400 polls. Second, `start()` was called twice: the first worker
writes `_quit = 2`, the wait reads it, and the second worker, held at its poll, resumes after
the teardown. -/
theorem late_worker_polls_destroyed_engine :
    (PollsAfterDestroy ((Pump.start 1).run 0 ([.worker 0, .worker 0, .worker 0, .worker 0, .main] ++
        List.replicate 800 .main ++ [.main, .main, .main, .worker 0, .worker 0])).log ∧
      PumpEvent.nullDeref 0 ∈ ((Pump.start 1).run 0 ([.worker 0, .worker 0, .worker 0, .worker 0,
        .main] ++ List.replicate 800 .main ++ [.main, .main, .main, .worker 0, .worker 0])).log) ∧
    ((Pump.start 2).run 0 twoWorkerSchedule).timedOut = false ∧
      PollsAfterDestroy ((Pump.start 2).run 0 twoWorkerSchedule).log ∧
      PumpEvent.nullDeref 1 ∈ ((Pump.start 2).run 0 twoWorkerSchedule).log := by
  have h1 : (Pump.start 1).run 0 [.worker 0, .worker 0, .worker 0, .worker 0, .main] =
      ⟨true, 1, .test, 0, false, [.poll], [.register 0]⟩ := by decide
  have h2 := Pump.run_main_polls 0 (p := ⟨true, 1, .test, 0, false, [.poll], [.register 0]⟩)
    rfl (by decide) (n := 400) rfl
  refine ⟨?_, by decide, ⟨[.register 0, .register 1, .handleEvents (.worker 0)],
    [.handleEvents (.worker 1), .nullDeref 1], .worker 1, by decide, by decide⟩, by decide⟩
  rw [Pump.run_append, Pump.run_append, h1, show 800 = 2 * 400 from rfl, h2]
  generalize List.replicate 400 (PumpEvent.handleEvents Tid.main) = L
  refine ⟨⟨[.register 0] ++ L, [.handleEvents (.worker 0), .nullDeref 0], .worker 0, ?_,
    by simp⟩, ?_⟩ <;>
    simp [Pump.run, Pump.step, Pump.mainStep, Pump.workerStep]

theorem set_of_getElem?_eq_some {α : Type} {l : List α} {i : Nat} {a : α}
    (h : l[i]? = some a) : l.set i a = l := by
  apply List.ext_getElem?
  intro j
  rw [List.getElem?_set']
  split_ifs with hij
  · subst hij; simp [h]
  · rfl

/-- Everything one step of worker `i` at `pc` can do: it moves on, sets `_quit` only to `2` and
only on its way to `done`, logs neither `destroy` nor a poll by the main thread, and
dereferences `None` only when `_lib` is `None`; once `done` it does nothing. -/
theorem Pump.workerStep_cases (regErr : Int) {p : Pump} {i : Nat} {pc : WorkerPc}
    (hi : p.workers[i]? = some pc) :
    ∃ pc' q e, p.workerStep regErr i pc =
        { p with workers := p.workers.set i pc', quit := q, log := p.log ++ e } ∧
      (pc = .done → pc' = .done ∧ q = p.quit ∧ e = []) ∧ (q = p.quit ∨ q = 2 ∧ pc' = .done) ∧
      (∀ ev ∈ e, ev ≠ .destroy ∧ ev ≠ .handleEvents .main) ∧
      ∀ j, PumpEvent.nullDeref j ∈ e → p.lib = false := by
  obtain ⟨lib, q, m, loop, tmo, ws, log⟩ := p
  dsimp only at hi
  have hset : ws.set i pc = ws := set_of_getElem?_eq_some hi
  cases pc <;> simp only [Pump.workerStep]
  case done =>
    exact ⟨.done, q, [], by rw [List.append_nil, hset], by simp, .inl rfl, by simp, by simp⟩
  case crashed =>
    exact ⟨.crashed, q, [], by rw [List.append_nil, hset], by simp, .inl rfl, by simp, by simp⟩
  all_goals (try split_ifs) <;>
    first
    | exact ⟨_, _, [], by rw [List.append_nil], by simp, .inl rfl, by simp, by simp⟩
    | exact ⟨_, _, _, rfl, by simp, .inl rfl, by simp, by simp_all⟩
    | exact ⟨_, _, [], by rw [List.append_nil], by simp, .inr ⟨rfl, rfl⟩, by simp, by simp⟩

/-- What holds of every state that `destroy()` and one worker reach. -/
structure Handshake (p : Pump) : Prop where
  single : p.workers.length = 1
  early : p.main = .setQuit ∨ p.main = .test ∨ p.main = .poll → p.timedOut = false
  destroyed : PumpEvent.destroy ∈ p.log → p.main = .clear ∨ p.main = .done
  cleared : p.lib = false → p.main = .done
  quit : p.quit = 2 → p.workers = [.done]
  exited : p.main = .teardown ∨ p.main = .clear ∨ p.main = .done → p.timedOut = false →
    p.workers = [.done]
  safe : p.timedOut = false → ¬ PollsAfterDestroy p.log ∧ ∀ i, PumpEvent.nullDeref i ∉ p.log

namespace Handshake

theorem start : Handshake (Pump.start 1) := by
  constructor <;> simp [Pump.start, PollsAfterDestroy]

theorem mainStep {p : Pump} (h : Handshake p) : Handshake p.mainStep := by
  obtain ⟨lib, q, m, loop, tmo, ws, log⟩ := p
  obtain ⟨single, early, destroyed, cleared, quit, exited, safe⟩ := h
  dsimp only at single early destroyed cleared quit exited safe
  cases m <;> simp only [Pump.mainStep]
  case setQuit =>
    exact ⟨single, fun _ => early (by simp), fun hd => by simpa using destroyed hd,
      fun hl => by simpa using cleared hl, by simp, by simp, safe⟩
  case test =>
    split_ifs with hc
    · exact ⟨single, fun _ => early (by simp), fun hd => by simpa using destroyed hd,
        fun hl => by simpa using cleared hl, quit, by simp, safe⟩
    · exact ⟨single, by simp, fun hd => by simpa using destroyed hd,
        fun hl => by simpa using cleared hl, quit, fun _ ht => quit (by simpa using ht),
        fun _ => safe (early (by simp))⟩
  case poll =>
    have hd : PumpEvent.destroy ∉ log := fun hd => by simpa using destroyed hd
    exact ⟨single, fun _ => early (by simp), fun hd' => absurd (by simpa using hd') hd,
      fun hl => by simpa using cleared hl, quit, by simp,
      fun ht => ⟨by simp [pollsAfterDestroy_snoc, (safe ht).1, hd], by simpa using (safe ht).2⟩⟩
  case teardown =>
    exact ⟨single, by simp, by simp, fun hl => by simpa using cleared hl, quit,
      fun _ => exited (by simp),
      fun ht => ⟨by simp [pollsAfterDestroy_snoc, (safe ht).1], by simpa using (safe ht).2⟩⟩
  case clear => exact ⟨single, by simp, by simp, fun _ => rfl, quit, fun _ => exited (by simp), safe⟩
  case done => exact ⟨single, early, destroyed, cleared, quit, exited, safe⟩

/-- Once `destroy()` has destroyed the engine or cleared `_lib` after a wait that read
`_quit == 2`, the worker has exited. -/
theorem worker_done {p : Pump} (h : Handshake p) (ht : p.timedOut = false)
    (hs : PumpEvent.destroy ∈ p.log ∨ p.lib = false) : p.workers = [.done] := by
  refine h.exited ?_ ht
  rcases hs with hd | hl
  · rcases h.destroyed hd with hm | hm <;> simp [hm]
  · simp [h.cleared hl]

theorem workerStep (regErr : Int) {p : Pump} {i : Nat} {pc : WorkerPc} (h : Handshake p)
    (hi : p.workers[i]? = some pc) : Handshake (p.workerStep regErr i pc) := by
  obtain ⟨w, hw⟩ := List.length_eq_one.1 h.single
  obtain ⟨rfl, rfl⟩ : i = 0 ∧ w = pc := by
    cases i with
    | zero => simpa [hw] using hi
    | succ i => simp [hw] at hi
  obtain ⟨w', q, e, hstep, hdone, hq, he, hn⟩ := Pump.workerStep_cases regErr hi
  rw [hstep, show p.workers.set 0 w' = [w'] by simp [hw]]
  have hd : PumpEvent.destroy ∉ e := fun hmem => (he _ hmem).1 rfl
  have hfin : p.workers = [.done] → w' = .done ∧ q = p.quit ∧ e = [] := fun h' =>
    hdone (by simpa [hw] using h')
  refine ⟨rfl, h.early, fun he => h.destroyed (List.mem_append.1 he |>.resolve_right hd),
    h.cleared, fun h2 => ?_, fun hm ht => by simp [hfin (h.exited hm ht)], fun ht => ?_⟩
  · rcases hq with rfl | ⟨-, rfl⟩
    · simp [hfin (h.quit h2)]
    · rfl
  · by_cases hw' : p.workers = [.done]
    · simpa [(hfin hw').2.2] using h.safe ht
    · have hlive := mt (h.worker_done ht) hw'
      simp only [not_or, Bool.not_eq_false] at hlive
      refine ⟨not_pollsAfterDestroy (by simp [hlive.1, hd]), fun i hi => ?_⟩
      rcases List.mem_append.1 hi with hi | hi
      · exact (h.safe ht).2 i hi
      · simpa [hlive.2] using hn i hi

theorem step (regErr : Int) {p : Pump} (h : Handshake p) (t : Tid) :
    Handshake (p.step regErr t) := by
  cases t with
  | main => exact h.mainStep
  | worker i =>
      simp only [Pump.step]
      split
      · exact h.workerStep regErr ‹_›
      · exact h

theorem run (regErr : Int) {p : Pump} (h : Handshake p) (sched : List Tid) :
    Handshake (p.run regErr sched) := by
  induction sched generalizing p with
  | nil => exact h
  | cons t ts ih => exact ih (h.step regErr t)

end Handshake

/-- With one worker, as long as the wait of `destroy()` has not given up after 400 polls, the
engine is not polled after `_pjsua.destroy()` and no thread reads `_lib` once it is `None`,
whatever the interleaving and whatever `thread_register` returns. -/
theorem handshake_shutdown_safe (regErr : Int) (sched : List Tid)
    (h : ((Pump.start 1).run regErr sched).timedOut = false) :
    ¬ PollsAfterDestroy ((Pump.start 1).run regErr sched).log ∧
      ∀ i, PumpEvent.nullDeref i ∉ ((Pump.start 1).run regErr sched).log :=
  (Handshake.start.run regErr sched).safe h

/-- The worker reads `_quit == 1` and exits before `destroy()` tests the flag: the wait reads
`2`, and the engine is destroyed and `_lib` cleared. -/
theorem handshake_after_worker_exit :
    ((Pump.start 1).run 0 [.main, .worker 0, .worker 0, .worker 0, .worker 0, .worker 0,
        .worker 0, .main, .main, .main]).timedOut = false ∧
      (¬ PollsAfterDestroy ((Pump.start 1).run 0 [.main, .worker 0, .worker 0, .worker 0,
          .worker 0, .worker 0, .worker 0, .main, .main, .main]).log ∧
        ∀ i, PumpEvent.nullDeref i ∉ ((Pump.start 1).run 0 [.main, .worker 0, .worker 0,
          .worker 0, .worker 0, .worker 0, .worker 0, .main, .main, .main]).log) :=
  ⟨by decide, handshake_shutdown_safe 0 _ (by decide)⟩

def Pump.mainSteps : MainPc → Nat → Nat
  | .setQuit, _ => 0
  | .test, loop => 2 * loop + 1
  | .poll, loop => 2 * loop + 2
  | .teardown, _ => 802
  | .clear, _ => 803
  | .done, _ => 804

/-- What holds once `destroy()` has taken `k` steps, whatever the workers do. -/
structure Waiting (p : Pump) (k : Nat) : Prop where
  fresh : p.main = .setQuit → p.loop = 0
  loop_le : p.loop ≤ 400
  poll_lt : p.main = .poll → p.loop < 400
  polls : p.log.count (.handleEvents .main) = p.loop
  steps : p.main = .done ∨ k ≤ Pump.mainSteps p.main p.loop
  torn : p.main = .clear ∨ p.main = .done → PumpEvent.destroy ∈ p.log
  cleared : p.main = .done → p.lib = false

namespace Waiting

theorem start (n : Nat) : Waiting (Pump.start n) 0 := by
  constructor <;> simp [Pump.start, Pump.mainSteps]

theorem mainStep {p : Pump} {k : Nat} (h : Waiting p k) : Waiting p.mainStep (k + 1) := by
  obtain ⟨lib, q, m, loop, tmo, ws, log⟩ := p
  obtain ⟨fresh, loop_le, poll_lt, polls, steps, torn, cleared⟩ := h
  dsimp only at fresh loop_le poll_lt polls steps torn cleared
  cases m <;> simp only [Pump.mainStep] <;>
    simp only [reduceCtorEq, false_or, Pump.mainSteps] at steps
  case setQuit =>
    exact ⟨by simp, by simp, by simp, by simp [polls, fresh rfl], by simp [Pump.mainSteps]; omega,
      by simp, by simp⟩
  case test =>
    split_ifs with hc
    · exact ⟨by simp, loop_le, fun _ => hc.2, polls, by simp [Pump.mainSteps]; omega, by simp, by simp⟩
    · exact ⟨by simp, loop_le, by simp, polls, by simp [Pump.mainSteps]; omega, by simp, by simp⟩
  case poll =>
    have := poll_lt rfl
    exact ⟨by simp, by simp; omega, by simp, by simp [polls], by simp [Pump.mainSteps]; omega,
      by simp, by simp⟩
  case teardown =>
    exact ⟨by simp, loop_le, by simp, by simp [polls], by simp [Pump.mainSteps]; omega, by simp,
      by simp⟩
  case clear => exact ⟨by simp, loop_le, by simp, polls, by simp, fun _ => torn (by simp), fun _ => rfl⟩
  case done => exact ⟨fresh, loop_le, poll_lt, polls, .inl rfl, torn, cleared⟩

theorem workerStep (regErr : Int) {p : Pump} {k i : Nat} {pc : WorkerPc} (h : Waiting p k)
    (hi : p.workers[i]? = some pc) : Waiting (p.workerStep regErr i pc) k := by
  obtain ⟨pc', q, e, hstep, -, -, he, -⟩ := Pump.workerStep_cases regErr hi
  rw [hstep]
  have hpolls : e.count (.handleEvents .main) = 0 :=
    List.count_eq_zero.2 fun hmem => (he _ hmem).2 rfl
  exact ⟨h.fresh, h.loop_le, h.poll_lt, by simp [hpolls, h.polls], h.steps,
    fun hm => List.mem_append_left _ (h.torn hm), h.cleared⟩

theorem step (regErr : Int) {p : Pump} {k : Nat} (h : Waiting p k) (t : Tid) :
    Waiting (p.step regErr t) (k + [t].count .main) := by
  cases t with
  | main => exact h.mainStep
  | worker i =>
      simp only [Pump.step, List.count_singleton, beq_iff_eq, reduceCtorEq, if_false, Nat.add_zero]
      split
      · exact h.workerStep regErr ‹_›
      · exact h

theorem run (regErr : Int) {p : Pump} {k : Nat} (h : Waiting p k) (sched : List Tid) :
    Waiting (p.run regErr sched) (k + sched.count .main) := by
  induction sched generalizing p k with
  | nil => exact h
  | cons t ts ih =>
      have := ih (h.step regErr t)
      rwa [Nat.add_assoc, ← List.count_append, List.singleton_append] at this

end Waiting

/-- Whatever the workers do, `destroy()` polls the engine at most 400 times, and once it has
had 804 steps of its own it has destroyed the engine and cleared `_lib`, whether or not a
worker has seen the flag. -/
theorem destroy_wait_bounded (n : Nat) (regErr : Int) (sched : List Tid) :
    ((Pump.start n).run regErr sched).log.count (.handleEvents .main) ≤ 400 ∧
      (804 ≤ sched.count .main →
        PumpEvent.destroy ∈ ((Pump.start n).run regErr sched).log ∧
          ((Pump.start n).run regErr sched).lib = false) := by
  have h := (Waiting.start n).run regErr sched
  rw [Nat.zero_add] at h
  refine ⟨h.polls ▸ h.loop_le, fun hk => ?_⟩
  have hdone : ((Pump.start n).run regErr sched).main = .done := by
    rcases h.steps with hm | hm
    · exact hm
    · have := h.loop_le
      cases hm' : ((Pump.start n).run regErr sched).main
      case done => rfl
      all_goals simp only [hm', Pump.mainSteps] at hm; omega
  exact ⟨h.torn (.inr hdone), h.cleared hdone⟩

/-- A worker that never runs does not hold up the teardown. -/
theorem destroy_without_worker :
    804 ≤ (List.replicate 804 Tid.main).count .main ∧
      (PumpEvent.destroy ∈ ((Pump.start 1).run 0 (List.replicate 804 .main)).log ∧
        ((Pump.start 1).run 0 (List.replicate 804 .main)).lib = false) :=
  ⟨by rw [List.count_replicate_self], (destroy_wait_bounded 1 0 _).2
    (by rw [List.count_replicate_self])⟩

end Pjsua
