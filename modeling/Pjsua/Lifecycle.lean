import Pjsua.Dispatch

/-!
The life of `Lib` objects. `Lib()` refuses to run while the module global `_lib` is set, and
otherwise creates the engine and becomes `_lib`; `destroy()` tears the engine down and clears
`_lib`; `__del__` tears the engine down whenever Python collects a `Lib` object. A run is any
order of constructions, explicit `destroy()` calls on the objects the application holds, and
collections of objects nothing refers to (`_lib` keeps its object alive). No step touches the
class-level maps of the registry.
-/

namespace Pjsua

/-- The state before any `Lib` exists: empty class-level maps, `_lib = None`. Identity `0` is
taken by the class attribute `Account._cb`. -/
def World.init : World := ⟨Registry.empty, fun _ => none, none, 1, []⟩

/-- `Lib()`: a fresh object whose `__init__` raises while `_lib` is set, and otherwise calls
`_pjsua.create()`, checks its status, and sets `_lib`. -/
def Lib.new (createErr : Int) (w : World) : Except PyExc Nat × World :=
  let self := w.fresh
  let w := { w with fresh := w.fresh + 1 }
  if w.lib.isSome then
    (.error (.error ⟨"__init()__", .none, -1, "Library instance already exist"⟩), w)
  else
    let w := { w with log := w.log ++ [.engine .create] }
    match errCheck "_pjsua.create()" .none createErr "" with
    | .ok () => (.ok self, { w with lib := some self })
    | .error e => (.error e, w)

@[simp] theorem Lib.new_reg (createErr : Int) (w : World) : (Lib.new createErr w).2.reg = w.reg := by
  unfold Lib.new
  dsimp only
  split_ifs
  · rfl
  · cases errCheck "_pjsua.create()" .none createErr "" <;> rfl

@[simp] theorem Lib.new_cb (createErr : Int) (w : World) : (Lib.new createErr w).2.cb = w.cb := by
  unfold Lib.new
  dsimp only
  split_ifs
  · rfl
  · cases errCheck "_pjsua.create()" .none createErr "" <;> rfl

/-- `Lib.destroy()` on an object that never started a worker thread: `_pjsua.destroy()`, then
`_lib = None`, whichever object it is called on. With a worker thread, its steps interleave with
the worker's (`Session`). -/
def Lib.destroy (w : World) : World :=
  { w with log := w.log ++ [.engine .destroy], lib := none }

/-- `Lib.__del__`: `_pjsua.destroy()`, unconditionally. -/
def Lib.del (w : World) : World :=
  { w with log := w.log ++ [.engine .destroy] }

/-- The process: the world, the `Lib` objects not yet collected, and those of them the
application holds (the ones whose construction returned). -/
structure Process where
  world : World
  live : List Nat
  owned : List Nat

inductive LibStep
  | construct (createErr : Int)
  | destroy (l : Nat)
  | collect (l : Nat)
  deriving DecidableEq, Repr

namespace Process

def init : Process := ⟨World.init, [], []⟩

/-- One step. A construction's object is live whether `__init__` raised or not, and owned only
if it returned. `destroy()` is called on an owned object; an object is collected once nothing
refers to it, which `_lib` prevents. -/
def step (p : Process) : LibStep → Process
  | .construct err =>
      let l := p.world.fresh
      let (r, w) := Lib.new err p.world
      ⟨w, p.live ++ [l], match r with | .ok _ => p.owned ++ [l] | .error _ => p.owned⟩
  | .destroy l => if l ∈ p.owned then { p with world := Lib.destroy p.world } else p
  | .collect l =>
      if l ∈ p.live ∧ p.world.lib ≠ some l then
        ⟨Lib.del p.world, p.live.erase l, p.owned.erase l⟩
      else p

def run (p : Process) (steps : List LibStep) : Process := steps.foldl step p

theorem run_cons (p : Process) (s : LibStep) (steps : List LibStep) :
    p.run (s :: steps) = (p.step s).run steps := rfl

@[simp] theorem step_reg (p : Process) (s : LibStep) : (p.step s).world.reg = p.world.reg := by
  cases s with
  | construct err => exact Lib.new_reg err p.world
  | destroy l => simp only [step]; split_ifs <;> rfl
  | collect l => simp only [step]; split_ifs <;> rfl

@[simp] theorem step_cb (p : Process) (s : LibStep) : (p.step s).world.cb = p.world.cb := by
  cases s with
  | construct err => exact Lib.new_cb err p.world
  | destroy l => simp only [step]; split_ifs <;> rfl
  | collect l => simp only [step]; split_ifs <;> rfl

theorem run_reg (p : Process) (steps : List LibStep) : (p.run steps).world.reg = p.world.reg := by
  induction steps generalizing p with
  | nil => rfl
  | cons s steps ih => rw [run_cons, ih, step_reg]

theorem run_cb (p : Process) (steps : List LibStep) : (p.run steps).world.cb = p.world.cb := by
  induction steps generalizing p with
  | nil => rfl
  | cons s steps ih => rw [run_cons, ih, step_cb]

theorem run_destroy_construct_lib {p : Process} {l : Nat} (hl : l ∈ p.owned) :
    (p.run [.destroy l, .construct 0]).world.lib = some (p.world.fresh) := by
  simp [run, step, hl, Lib.destroy, Lib.new, errCheck]

end Process

/-- The registry's maps and the installed handlers are class-level and per-wrapper state that
no `Lib` lifecycle step touches: a `Lib` built after `destroy()` starts with the maps the
previous one left, and a notification from the new engine for a handle still mapped runs the
handler of the wrapper created under the previous `Lib`. -/
theorem registry_outlives_lib (reply : Handler → Notice → Except PyExc PyVal) (E : Engine) :
    (∀ (p : Process) steps,
      (p.run steps).world.reg = p.world.reg ∧ (p.run steps).world.cb = p.world.cb) ∧
    (∀ (p : Process) l c o h, l ∈ p.owned → p.world.reg.lookupCall c = some o →
      p.world.handler .call o = some h →
      deliver reply E (p.run [.destroy l, .construct 0]).world (.onCallState c) =
        ((reply h .onState).map fun _ => .none,
          { (p.run [.destroy l, .construct 0]).world with
            log := (p.run [.destroy l, .construct 0]).world.log ++ [.invoke h .onState] })) := by
  refine ⟨fun p steps => ⟨p.run_reg steps, p.run_cb steps⟩, fun p l c o h hl hc hh => ?_⟩
  have hh' : (p.run [.destroy l, .construct 0]).world.handler .call o = some h := by
    simpa [World.handler, Process.run_cb] using hh
  have ha : (Notification.onCallState c).addressee E (p.run [.destroy l, .construct 0]).world.reg =
      some (.call, o, .onState) := by
    simp [Notification.addressee, Process.run_reg, hc]
  simpa [Notification.expectsReply] using
    deliver_addressed (by simp [Process.run_destroy_construct_lib hl]) ha hh'

/-- After `destroy()`, a new `Lib()` returns and becomes `_lib`; a call wrapper with a handler,
mapped under the first `Lib`, is still mapped, and the state notification the new engine sends
for the reused handle runs that wrapper's handler. -/
theorem new_lib_inherits_calls :
    let p : Process := ⟨⟨Registry.empty.associateCall 1 ⟨5, 1⟩,
      fun _ => some ⟨7, .callCallback, some ⟨5, 1⟩⟩, some 1, 6, []⟩, [1], [1]⟩
    let w := (p.run [.destroy 1, .construct 0]).world
    (p.run [.destroy 1, .construct 0]).owned = [1, 6] ∧ w.lib = some 6 ∧
      w.reg.lookupCall 1 = some ⟨5, 1⟩ ∧
      deliver (fun _ _ => .ok .none) Engine.blank w (.onCallState 1) =
        (.ok .none, { w with log := w.log ++ [.invoke ⟨7, .callCallback, some ⟨5, 1⟩⟩ .onState] }) :=
  ⟨by decide, by decide, by decide,
    (registry_outlives_lib (fun _ _ => .ok .none) Engine.blank).2 _ 1 1 ⟨5, 1⟩
      ⟨7, .callCallback, some ⟨5, 1⟩⟩ (by decide) (by decide) rfl⟩

/-- A second `Lib()` is refused, yet collecting the refused object destroys the engine the live
`_lib` created; the owner's `destroy()` then destroys it a second time. -/
theorem refused_lib_destroys_live_engine :
    (Lib.new 0 (Process.init.run [.construct 0]).world).1 =
        .error (.error ⟨"__init()__", .none, -1, "Library instance already exist"⟩) ∧
      (Process.init.run [.construct 0, .construct 0, .collect 2]).world.lib = some 1 ∧
      (Process.init.run [.construct 0, .construct 0, .collect 2]).world.log =
        [.engine .create, .engine .destroy] ∧
      (Process.init.run [.construct 0, .construct 0, .collect 2, .destroy 1]).world.log =
        [.engine .create, .engine .destroy, .engine .destroy] :=
  ⟨rfl, by decide, by decide, by decide⟩

end Pjsua
