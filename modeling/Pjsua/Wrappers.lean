import Pjsua.Registry

/-!
The `Call`, `Account` and `Buddy` wrappers over the registry: their construction, their
`info()` checks, `set_callback`, and `__del__`. The world they live in holds the registry, the
`_cb` member of every wrapper, the module global `_lib`, and the log of requests sent to the
engine and of handler methods run. Python keeps the mutations made before an exception, so an
operation returns its result together with the world it leaves. Along runs of constructions and
`set_callback` calls, every handler of the module's classes installed on a wrapper points back
at it; `Account.__init__` installs none, so an account keeps the class's handler.
-/

namespace Pjsua

/-- The class of a handler object: one of the module's three callback classes, or the
application's class `n`, derived from one of them as their docstrings ask; `onIncomingCall`
tells whether it has an `on_incoming_call` method. -/
inductive HandlerClass
  | callCallback
  | accountCallback
  | buddyCallback
  | app (n : Nat) (onIncomingCall : Bool)
  deriving DecidableEq, Repr

def HandlerClass.isApp : HandlerClass → Bool
  | .app _ _ => true
  | _ => false

/-- Whether `h.on_incoming_call` resolves: `AccountCallback` defines it, `CallCallback` and
`BuddyCallback` do not. -/
def HandlerClass.hasOnIncomingCall : HandlerClass → Bool
  | .accountCallback => true
  | .app _ b => b
  | _ => false

/-- A handler object: its identity, its class, and its back-reference member (`call`,
`account` or `buddy`). -/
structure Handler where
  hid : Nat
  cls : HandlerClass
  target : Option Obj
  deriving DecidableEq, Repr

def Handler.ownedBy (h : Handler) (o : Obj) : Bool := h.cls.isApp || decide (h.target = some o)

@[simp]
theorem Handler.ownedBy_mk (n : Nat) (cls : HandlerClass) (o : Obj) :
    (⟨n, cls, some o⟩ : Handler).ownedBy o = true := by
  simp [Handler.ownedBy]

/-- The class attribute `Account._cb = AccountCallback(None)`, created once with the class. -/
def Handler.accountClassDefault : Handler := ⟨0, .accountCallback, none⟩

/-- A handler method with the arguments the module passes to it. -/
inductive Notice
  | onRegState
  | onIncomingCall (call : Obj)
  | accountOnPager (fromUri contact mimeType body : String)
  | accountOnPagerStatus (toUri body : String) (imId code : Int) (reason : String)
  | accountOnTyping (fromUri contact : String) (isTyping : Bool)
  | onState
  | onMediaState
  | onDtmfDigit (digits : String)
  | onTransferRequest (dst : String) (code : Int)
  | onTransferStatus (code : Int) (reason : String) (final cont : Bool)
  | onReplaceRequest (code : Int) (reason : String)
  | onReplaced (newCall : Obj)
  | callOnPager (mimeType body : String)
  | callOnPagerStatus (body : String) (imId code : Int) (reason : String)
  | callOnTyping (isTyping : Bool)
  | buddyOnState
  | buddyOnPager (mimeType body : String)
  | buddyOnPagerStatus (body : String) (imId code : Int) (reason : String)
  | buddyOnTyping (isTyping : Bool)
  deriving DecidableEq, Repr

/-- An observable step: a request sent to the engine, or a handler method run. -/
inductive Event
  | engine (c : EngineCall)
  | invoke (h : Handler) (n : Notice)
  deriving DecidableEq, Repr

/-- The state the wrappers share. `cb o` is the instance member `_cb` of `o` where one was
assigned; `lib` is the module global `_lib`; `fresh` is the next object identity. -/
structure World where
  reg : Registry
  cb : Obj → Option Handler
  lib : Option Nat
  fresh : Nat
  log : List Event

/-- The class attribute `_cb` of each wrapper class: `AccountCallback(None)` for `Account`,
`None` for `Call` and `Buddy`. -/
def classCb : Kind → Option Handler
  | .account => some Handler.accountClassDefault
  | .call | .buddy => none

namespace World

/-- `o._cb` for a wrapper of kind `k`: the instance member, else the class attribute. -/
def handler (w : World) (k : Kind) (o : Obj) : Option Handler := (w.cb o).or (classCb k)

theorem handler_account_isSome (w : World) (o : Obj) : (w.handler .account o).isSome := by
  unfold handler
  cases w.cb o <;> rfl

/-- `o._cb = h` -/
def setCb (w : World) (o : Obj) (h : Handler) : World :=
  { w with cb := fun o' => if o' = o then some h else w.cb o' }

@[simp] theorem setCb_reg (w : World) (o : Obj) (h : Handler) : (w.setCb o h).reg = w.reg := rfl

@[simp] theorem setCb_log (w : World) (o : Obj) (h : Handler) : (w.setCb o h).log = w.log := rfl

/-- A fresh handler of one of the module's callback classes, with its back-reference. -/
def newHandler (w : World) (cls : HandlerClass) (target : Obj) : Handler × World :=
  (⟨w.fresh, cls, some target⟩, { w with fresh := w.fresh + 1 })

end World

/-- `Call.info()`: a call the engine does not report raises `Error("info", self, -1, ...)`;
`CallInfo(lib, None)` after it would keep the class defaults. -/
def Call.info (E : Engine) (self : Obj) : Except PyExc PjsuaCallInfo :=
  match E.callGetInfo self.id with
  | some ci => .ok ci
  | none => do
      errCheck "info" (.wrapper self) (-1) "Invalid call"
      pure ⟨""⟩

/-- `Account.info()`: an account the engine does not report raises
`Error("info()", self, -1, ...)`; `AccountInfo(None)` after it would fail on `None`. -/
def Account.info (E : Engine) (self : Obj) : Except PyExc PjsuaAccInfo :=
  match E.accGetInfo self.id with
  | some ai => .ok ai
  | none => do
      errCheck "info()" (.wrapper self) (-1) "Invalid account"
      throw .attributeError

/-- `Call(lib, call_id)`: `self._cb = CallCallback(self)`, the association under `call_id`,
then `info()` for the object name. -/
def Call.new (E : Engine) (w : World) (callId : Int) : Except PyExc Obj × World :=
  let self : Obj := ⟨w.fresh, callId⟩
  let cb : Handler := ⟨w.fresh + 1, .callCallback, some self⟩
  ((Call.info E self).map fun _ => self,
    { w.setCb self cb with fresh := w.fresh + 2, reg := w.reg.associateCall callId self })

theorem Call.info_eq (E : Engine) (self : Obj) :
    Call.info E self =
      match E.callGetInfo self.id with
      | some ci => .ok ci
      | none => .error (.error ⟨"info", .wrapper self, -1, "Invalid call"⟩) := by
  unfold Call.info
  cases E.callGetInfo self.id <;> rfl

/-- `Call(lib, call_id)` always leaves the new call associated, whether `info()` raises or not. -/
theorem Call.new_reg (E : Engine) (w : World) (callId : Int) :
    (Call.new E w callId).2.reg = w.reg.associateCall callId ⟨w.fresh, callId⟩ := rfl

theorem Call.new_fst (E : Engine) (w : World) (callId : Int) :
    (Call.new E w callId).1 =
      match E.callGetInfo callId with
      | some _ => .ok ⟨w.fresh, callId⟩
      | none => .error (.error ⟨"info", .wrapper ⟨w.fresh, callId⟩, -1, "Invalid call"⟩) := by
  simp only [Call.new, Call.info_eq]
  cases E.callGetInfo callId <;> rfl

/-- `Account(lib, id)`: `AccountCallback(self)` is bound to a local `_cb` and dropped, so
the instance keeps the class attribute; then the association under `id` and `info()`. -/
def Account.new (E : Engine) (w : World) (id : Int) : Except PyExc Obj × World :=
  let self : Obj := ⟨w.fresh, id⟩
  ((Account.info E self).map fun _ => self,
    { w with fresh := w.fresh + 2, reg := w.reg.associateAccount id self })

theorem Account.info_eq (E : Engine) (self : Obj) :
    Account.info E self =
      match E.accGetInfo self.id with
      | some ai => .ok ai
      | none => .error (.error ⟨"info()", .wrapper self, -1, "Invalid account"⟩) := by
  unfold Account.info
  cases E.accGetInfo self.id <;> rfl

/-- `Account(lib, id)` always leaves the new account associated, whether `info()` raises or not. -/
theorem Account.new_reg (E : Engine) (w : World) (id : Int) :
    (Account.new E w id).2.reg = w.reg.associateAccount id ⟨w.fresh, id⟩ := rfl

theorem Account.new_fst (E : Engine) (w : World) (id : Int) :
    (Account.new E w id).1 =
      match E.accGetInfo id with
      | some _ => .ok ⟨w.fresh, id⟩
      | none => .error (.error ⟨"info()", .wrapper ⟨w.fresh, id⟩, -1, "Invalid account"⟩) := by
  simp only [Account.new, Account.info_eq]
  cases E.accGetInfo id <;> rfl

/-- `Buddy(lib, id, account)`: `self._cb = BuddyCallback(self)`, the association with the URI
index, which raises when the engine's parser does, then `info()`, which never raises. -/
def Buddy.new (E : Engine) (w : World) (id : Int) : Except PyExc Obj × World :=
  let self : Obj := ⟨w.fresh, id⟩
  let cb : Handler := ⟨w.fresh + 1, .buddyCallback, some self⟩
  let assoc := w.reg.associateBuddy E id self
  (assoc.1.map fun _ => self, { w.setCb self cb with fresh := w.fresh + 2, reg := assoc.2 })

theorem Buddy.new_reg (E : Engine) (w : World) (id : Int) :
    (Buddy.new E w id).2.reg = (w.reg.associateBuddy E id ⟨w.fresh, id⟩).2 := rfl

/-- The body shared by the three `set_callback` methods: a given handler is installed, `None`
installs a fresh handler of the kind's callback class pointing back at the wrapper. -/
def setCallback (cls : HandlerClass) (w : World) (self : Obj) (cb : Option Handler) : World :=
  match cb with
  | some cb => w.setCb self cb
  | none =>
      let (cb, w) := w.newHandler cls self
      w.setCb self cb

/-- `Call.set_callback(cb)` -/
def Call.setCallback (w : World) (self : Obj) (cb : Option Handler) : World :=
  Pjsua.setCallback .callCallback w self cb

/-- `Account.set_callback(cb)` -/
def Account.setCallback (w : World) (self : Obj) (cb : Option Handler) : World :=
  Pjsua.setCallback .accountCallback w self cb

/-- `Buddy.set_callback(cb)` -/
def Buddy.setCallback (w : World) (self : Obj) (cb : Option Handler) : World :=
  Pjsua.setCallback .buddyCallback w self cb

/-- Every handler of the module's classes installed on a wrapper points back at that wrapper,
so it is installed on no other. -/
def PointsBack (cb : Obj → Option Handler) : Prop :=
  ∀ o h, cb o = some h → h.ownedBy o = true

theorem PointsBack.setCb {w : World} (hw : PointsBack w.cb) {o : Obj} {h : Handler}
    (hh : h.ownedBy o = true) : PointsBack (w.setCb o h).cb := by
  intro o' h' ho'
  simp only [World.setCb] at ho'
  split_ifs at ho' with e
  · obtain rfl := Option.some.inj ho'
    exact e ▸ hh
  · exact hw o' h' ho'

theorem PointsBack.setCallback {w : World} (hw : PointsBack w.cb) (cls : HandlerClass)
    (self : Obj) {cb : Option Handler} (hcb : ∀ c, cb = some c → c.ownedBy self = true) :
    PointsBack (Pjsua.setCallback cls w self cb).cb := by
  cases cb with
  | some c => exact hw.setCb (hcb c rfl)
  | none => exact hw.setCb (Handler.ownedBy_mk ..)

theorem classCb_eq_some {k : Kind} {h : Handler} (hk : classCb k = some h) :
    h = Handler.accountClassDefault := by
  cases k <;> simp only [classCb, reduceCtorEq, Option.some.injEq] at hk
  exact hk.symm

theorem World.handler_cases {w : World} {k : Kind} {o : Obj} {h : Handler}
    (ho : w.handler k o = some h) : w.cb o = some h ∨ h = Handler.accountClassDefault := by
  unfold World.handler at ho
  cases hc : w.cb o with
  | none =>
      rw [hc, Option.none_or] at ho
      exact .inr (classCb_eq_some ho)
  | some h' =>
      rw [hc] at ho
      exact .inl ho

/-- What `o._cb` resolves to where every instance handler points back: a handler of the
module's classes is the class attribute `Account._cb`, or has `o` as its back-reference and is
what no other wrapper's `_cb` resolves to. -/
theorem PointsBack.handler {w : World} (hw : PointsBack w.cb) {k : Kind} {o : Obj} {h : Handler}
    (hmod : h.cls.isApp = false) (ho : w.handler k o = some h) :
    h = Handler.accountClassDefault ∨
      h.target = some o ∧ ∀ k' o', w.handler k' o' = some h → o' = o := by
  have target : ∀ o', w.cb o' = some h → h.target = some o' := fun o' ho' => by
    simpa [Handler.ownedBy, hmod] using hw o' h ho'
  rcases World.handler_cases ho with hc | rfl
  · refine .inr ⟨target o hc, fun k' o' ho' => ?_⟩
    rcases World.handler_cases ho' with hc' | rfl
    · exact Option.some.inj ((target o' hc').symm.trans (target o hc))
    · simpa [Handler.accountClassDefault] using target o hc
  · exact .inl rfl

/-- A step of an application: a wrapper built over a handle, or `set_callback` on a wrapper of
the given kind. -/
inductive WrapperOp
  | newCall (callId : Int)
  | newAccount (id : Int)
  | newBuddy (id : Int)
  | setCallback (k : Kind) (self : Obj) (cb : Option Handler)

namespace WrapperOp

/-- What a step leaves, an exception from `info()` included. -/
def apply (E : Engine) (w : World) : WrapperOp → World
  | .newCall callId => (Call.new E w callId).2
  | .newAccount id => (Account.new E w id).2
  | .newBuddy id => (Buddy.new E w id).2
  | .setCallback .call self cb => Call.setCallback w self cb
  | .setCallback .account self cb => Account.setCallback w self cb
  | .setCallback .buddy self cb => Buddy.setCallback w self cb

def run (E : Engine) (w : World) (ops : List WrapperOp) : World := ops.foldl (apply E) w

def passesOwned : WrapperOp → Bool
  | .setCallback _ self (some cb) => cb.ownedBy self
  | _ => true

theorem pointsBack_apply (E : Engine) {w : World} (hw : PointsBack w.cb) {op : WrapperOp}
    (hop : op.passesOwned = true) : PointsBack (op.apply E w).cb := by
  cases op with
  | newCall callId => exact hw.setCb (Handler.ownedBy_mk ..)
  | newAccount id => exact hw
  | newBuddy id => exact hw.setCb (Handler.ownedBy_mk ..)
  | setCallback k self cb =>
      have hcb : ∀ c, cb = some c → c.ownedBy self = true := by rintro c rfl; exact hop
      cases k <;> exact hw.setCallback _ self hcb

theorem pointsBack_run (E : Engine) {w : World} (hw : PointsBack w.cb) {ops : List WrapperOp}
    (hops : ∀ op ∈ ops, op.passesOwned = true) : PointsBack (run E w ops).cb := by
  induction ops generalizing w with
  | nil => exact hw
  | cons op ops ih =>
      exact ih (pointsBack_apply E hw (hops op (List.mem_cons_self _ _)))
        fun op' h => hops op' (List.mem_cons_of_mem _ h)

end WrapperOp

/-- Along every run of constructions and `set_callback` calls that pass handlers their wrappers
own, what a wrapper's `_cb` resolves to, if it is a handler of the module's classes, is the
class attribute `Account._cb` that every account without its own handler shares, or a handler
whose back-reference is that wrapper and that no other wrapper's `_cb` resolves to. -/
theorem module_handler_owned (E : Engine) (w : World) (ops : List WrapperOp)
    (hw : PointsBack w.cb) (hops : ∀ op ∈ ops, op.passesOwned = true) {k : Kind} {o : Obj}
    {h : Handler} (hmod : h.cls.isApp = false)
    (ho : (WrapperOp.run E w ops).handler k o = some h) :
    h = Handler.accountClassDefault ∨
      h.target = some o ∧ ∀ k' o', (WrapperOp.run E w ops).handler k' o' = some h → o' = o :=
  (WrapperOp.pointsBack_run E hw hops).handler hmod ho

/-- A call, an account, a buddy, then `set_callback(None)` on the call: the call's fresh
`CallCallback` points back at it alone, and the account resolves to the class attribute. -/
theorem built_handlers_owned :
    let w : World := ⟨Registry.empty, fun _ => none, some 0, 0, []⟩
    let ops : List WrapperOp :=
      [.newCall 1, .newAccount 2, .newBuddy 3, .setCallback .call ⟨0, 1⟩ none]
    let h : Handler := ⟨6, .callCallback, some ⟨0, 1⟩⟩
    (WrapperOp.run Engine.blank w ops).handler .account ⟨2, 2⟩ =
        some Handler.accountClassDefault ∧
      (WrapperOp.run Engine.blank w ops).handler .call ⟨0, 1⟩ = some h ∧
      (h = Handler.accountClassDefault ∨ h.target = some ⟨0, 1⟩ ∧
        ∀ k' o', (WrapperOp.run Engine.blank w ops).handler k' o' = some h → o' = ⟨0, 1⟩) :=
  ⟨rfl, rfl, module_handler_owned (k := .call) Engine.blank _ _
    (fun _ _ h => Option.noConfusion h) (by decide) (by decide) rfl⟩

/-- On an engine that reports every account and call, two accounts built one after the other
are both returned, and both have the class's `AccountCallback(None)` as their handler, whose
`account` is `None`, where two calls each get a `CallCallback` pointing back at itself. -/
theorem accounts_share_class_handler :
    let E : Engine := { Engine.blank with
      callGetInfo := fun _ => some ⟨"sip:bob@example.com"⟩
      accGetInfo := fun _ => some ⟨"sip:alice@example.com"⟩ }
    let w : World := ⟨Registry.empty, fun _ => none, some 0, 0, []⟩
    let accounts : World := WrapperOp.run E w [.newAccount 1, .newAccount 2]
    let calls : World := WrapperOp.run E w [.newCall 1, .newCall 2]
    (Account.new E w 1).1 = .ok ⟨0, 1⟩ ∧ (Account.new E (Account.new E w 1).2 2).1 = .ok ⟨2, 2⟩ ∧
      accounts.handler .account ⟨0, 1⟩ = some ⟨0, .accountCallback, none⟩ ∧
      accounts.handler .account ⟨2, 2⟩ = some ⟨0, .accountCallback, none⟩ ∧
      (Call.new E w 1).1 = .ok ⟨0, 1⟩ ∧
      calls.handler .call ⟨0, 1⟩ = some ⟨1, .callCallback, some ⟨0, 1⟩⟩ ∧
      calls.handler .call ⟨2, 2⟩ = some ⟨3, .callCallback, some ⟨2, 2⟩⟩ :=
  ⟨rfl, rfl, rfl, rfl, rfl, rfl, rfl⟩

/-- `Call.__del__`: `self._lib._disassociate_call(self._id, self)` passes two arguments to a
method that takes one. -/
def Call.del (r : Registry) (self : Obj) : Except PyExc Registry :=
  pyApply 1 2 (.ok (r.disassociateCall self))

/-- `Account.__del__`: `self._lib._disassociate_account(self._id, self)`, two arguments to a
method that takes one. -/
def Account.del (r : Registry) (self : Obj) : Except PyExc Registry :=
  pyApply 1 2 (.ok (r.disassociateAccount self))

/-- `Buddy.__del__`: `self._lib._disassociate_buddy(self)`. -/
def Buddy.del (E : Engine) (r : Registry) (self : Obj) : Except PyExc Registry :=
  pyApply 1 1 (.ok (r.disassociateBuddy E self))

/-- `__del__` of a wrapper of kind `k`. -/
def del (E : Engine) (r : Registry) : Kind → Obj → Except PyExc Registry
  | .call, o => Call.del r o
  | .account, o => Account.del r o
  | .buddy, o => Buddy.del E r o

/-- Releasing a wrapper: Python runs `__del__` and reports and ignores an exception it raises,
keeping what the method changed before it. -/
def release (r : Registry) : Except PyExc Registry → Registry
  | .ok r' => r'
  | .error _ => r

theorem release_del_call (E : Engine) (r : Registry) (o : Obj) : release r (del E r .call o) = r := rfl

theorem release_del_account (E : Engine) (r : Registry) (o : Obj) : release r (del E r .account o) = r := rfl

theorem release_del_buddy (E : Engine) (r : Registry) (o : Obj) :
    (release r (del E r .buddy o)).buddy = r.buddy.disassociate o ∧
      (release r (del E r .buddy o)).call = r.call ∧
      (release r (del E r .buddy o)).account = r.account :=
  ⟨Registry.disassociateBuddy_buddy E r o, Registry.disassociateBuddy_call E r o,
    Registry.disassociateBuddy_account E r o⟩

/-- Releasing a call or an account mapped at its own handle raises `TypeError`, which Python
reports and ignores, and the entry stays. -/
theorem released_wrapper_stays_mapped :
    let r : Registry := (Registry.empty.associateCall 1 ⟨0, 1⟩).associateAccount 1 ⟨0, 1⟩
    del Engine.blank r .call ⟨0, 1⟩ = .error .typeError ∧
      (release r (del Engine.blank r .call ⟨0, 1⟩)).lookupCall 1 = some ⟨0, 1⟩ ∧
    del Engine.blank r .account ⟨0, 1⟩ = .error .typeError ∧
      (release r (del Engine.blank r .account ⟨0, 1⟩)).lookupAccount 1 = some ⟨0, 1⟩ :=
  ⟨rfl, by rw [release_del_call]; rfl, rfl, by rw [release_del_account]; rfl⟩

end Pjsua
