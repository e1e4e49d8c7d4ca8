import Pjsua.System
import Pjsua.Worker

/-!
A `Lib` started with a worker thread, from `start(with_thread=True)` to the end of its
`destroy()` and after. The application's calls on the main thread, the worker's loop and the
threaded branch of `destroy()` interleave; each `_pjsua.handle_events` of either thread delivers
whatever the engine has queued through the callback spine. The main thread calls nothing while
it is inside `destroy()`, and nothing of the `Lib` lifecycle while the session lasts.

Each step of a session is, on the registry, the handlers, the identities and `_lib`, a run of
the sequential system, so the registry and handler invariants of those runs hold along every
session; the pump keeps the handshake's invariant; and `_lib` is set exactly while the pump's
`lib` is.
-/

namespace Pjsua

/-- The world the wrappers share and the threads of the handshake. -/
structure Session where
  world : World
  pump : Pump

/-- A step of a session: an application call on the main thread, or a step of a thread of the
handshake, which is handed what the engine delivers if it polls. -/
inductive SessionStep
  | app (op : SysOp)
  | thread (t : Tid) (ns : List Notification)

def SessionStep.passesOwned : SessionStep → Bool
  | .app op => op.passesOwned
  | .thread _ _ => true

namespace Session
variable (regErr : Int) (reply : Handler → Notice → Except PyExc PyVal) (E : Engine)

/-- `_pjsua.handle_events`: every queued notification goes through the callback spine. -/
def handleEvents (w : World) (ns : List Notification) : World :=
  SysOp.run reply E w (ns.map .notify)

/-- What a thread's step does to the world: a poll delivers `ns`, `destroy()` calls
`_pjsua.destroy()` and then clears `_lib`, and every other step touches only `_quit`. -/
def threadWorld (p : Pump) (w : World) (ns : List Notification) : Tid → World
  | .main =>
      match p.main with
      | .poll => handleEvents reply E w ns
      | .teardown => { w with log := w.log ++ [.engine .destroy] }
      | .clear => { w with lib := none }
      | _ => w
  | .worker i =>
      match p.workers[i]? with
      | some .poll => handleEvents reply E w ns
      | _ => w

/-- One step. An application call runs only while the main thread is outside `destroy()`, and
only if it is not a step of the `Lib` lifecycle. -/
def step (s : Session) : SessionStep → Session
  | .app op =>
      if (s.pump.main = .setQuit ∨ s.pump.main = .done) ∧ op.keepsLib = true then
        { s with world := op.apply reply E s.world }
      else s
  | .thread t ns => ⟨threadWorld reply E s.pump s.world ns t, s.pump.step regErr t⟩

def run (s : Session) (steps : List SessionStep) : Session := steps.foldl (step regErr reply E) s

theorem handleEvents_keepsLib (ns : List Notification) :
    ∀ op ∈ ns.map SysOp.notify, op.keepsLib = true ∧ op.passesOwned = true := by
  simp [SysOp.keepsLib, SysOp.passesOwned]

/-- Every step is, on the world's core, a run of the sequential system. -/
theorem step_core (s : Session) (st : SessionStep) :
    ∃ ops : List SysOp, (st.passesOwned = true → ∀ op ∈ ops, op.passesOwned = true) ∧
      (s.step regErr reply E st).world.core = (SysOp.run reply E s.world ops).core := by
  cases st with
  | app op =>
      simp only [step]
      split_ifs
      · exact ⟨[op], by simp [SessionStep.passesOwned], rfl⟩
      · exact ⟨[], by simp, rfl⟩
  | thread t ns =>
      have hpoll : ∃ ops : List SysOp, (∀ op ∈ ops, op.passesOwned = true) ∧
          (handleEvents reply E s.world ns).core = (SysOp.run reply E s.world ops).core :=
        ⟨_, fun op h => (handleEvents_keepsLib ns op h).2, rfl⟩
      have hkeep : ∃ ops : List SysOp, (∀ op ∈ ops, op.passesOwned = true) ∧
          s.world.core = (SysOp.run reply E s.world ops).core := ⟨[], by simp, rfl⟩
      simp only [step, SessionStep.passesOwned, true_implies]
      cases t with
      | main =>
          simp only [threadWorld]
          split
          · exact hpoll
          · exact hkeep
          · exact ⟨[.libDestroy], by simp [SysOp.passesOwned], rfl⟩
          · exact hkeep
      | worker i =>
          simp only [threadWorld]
          split
          · exact hpoll
          · exact hkeep

theorem threadWorld_lib (p : Pump) (w : World) (ns : List Notification) (t : Tid) :
    (threadWorld reply E p w ns t).lib = if t = .main ∧ p.main = .clear then none else w.lib := by
  have hpoll : (handleEvents reply E w ns).lib = w.lib :=
    SysOp.run_lib reply E w fun op h => (handleEvents_keepsLib ns op h).1
  cases t with
  | main =>
      simp only [threadWorld, true_and]
      split <;> simp_all
  | worker i =>
      simp only [threadWorld, reduceCtorEq, false_and, if_false]
      split
      · exact hpoll
      · rfl

end Session

theorem Pump.step_lib (regErr : Int) (p : Pump) (t : Tid) :
    (p.step regErr t).lib = if t = .main ∧ p.main = .clear then false else p.lib := by
  cases t with
  | main =>
      simp only [Pump.step, Pump.mainStep, true_and]
      split <;> (try split_ifs) <;> simp_all
  | worker i =>
      simp only [Pump.step, reduceCtorEq, false_and, if_false]
      split
      · obtain ⟨_, _, _, h, -⟩ := Pump.workerStep_cases regErr ‹_›
        rw [h]
      · rfl

/-- What holds along a session that starts from a reachable world: the registry replays an
own-handle history from `r₀`, the handlers are wired, the pump keeps the handshake's invariant,
and `_lib` is set exactly while the pump's `lib` is. -/
structure Session.Inv (E : Engine) (r₀ : Registry) (s : Session) : Prop where
  replays : Registry.Replays E r₀ s.world.reg
  wired : Wired E s.world
  handshake : Handshake s.pump
  lib : s.world.lib.isSome = s.pump.lib

namespace Session.Inv
variable {regErr : Int} {reply : Handler → Notice → Except PyExc PyVal} {E : Engine}
  {r₀ : Registry} {s : Session}

theorem step (h : Session.Inv E r₀ s) {st : SessionStep} (hst : st.passesOwned = true) :
    Session.Inv E r₀ (s.step regErr reply E st) := by
  obtain ⟨ops, hops, hcore⟩ := s.step_core regErr reply E st
  have hown := hops hst
  refine ⟨h.replays.trans ?_, ((h.wired.run reply hown).of_core hcore), ?_, ?_⟩
  · rw [World.reg_of_core hcore]
    exact Registry.Replays.run reply s.world ops
  · cases st with
    | app op => simp only [Session.step]; split_ifs <;> exact h.handshake
    | thread t ns => exact h.handshake.step regErr t
  · cases st with
    | app op =>
        simp only [Session.step]
        split_ifs with hc
        · rw [SysOp.apply_lib reply E s.world hc.2]
          exact h.lib
        · exact h.lib
    | thread t ns =>
        simp only [Session.step, Session.threadWorld_lib, Pump.step_lib]
        split_ifs
        · rfl
        · exact h.lib

theorem run (h : Session.Inv E r₀ s) {steps : List SessionStep}
    (hsteps : ∀ st ∈ steps, st.passesOwned = true) :
    Session.Inv E r₀ (s.run regErr reply E steps) := by
  induction steps generalizing s with
  | nil => exact h
  | cons st sts ih =>
      exact ih (h.step (hsteps st (List.mem_cons_self _ _)))
        fun st' h' => hsteps st' (List.mem_cons_of_mem _ h')

end Session.Inv

end Pjsua
