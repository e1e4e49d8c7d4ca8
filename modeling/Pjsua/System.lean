import Pjsua.Errors
import Pjsua.Lifecycle

/-!
The wrapper as one system. A step is an API call that builds wrappers (`Lib.create_account`,
`Lib.create_account_for_transport`, `Account.make_call`, `Account.add_buddy`, or a wrapper
constructor called directly), a notification the engine delivers through the callback spine,
`set_callback`, the release of a wrapper (its `__del__`), or a step of the `Lib` lifecycle.
Python runs `__del__` only once nothing refers to the wrapper; a step here may release any
wrapper at any time, so the runs Python allows are among the runs below.

Along every run, every wrapper the registry maps has a handler, and every handler of the
module's classes points back at its wrapper. The registry is the replay of a history of its own
methods, each wrapper associated under its own `_id`. No step removes a call or an account from the registry: their `__del__` raises before
it reaches the registry, so an entry only ever changes to a wrapper built later.
-/

namespace Pjsua

def World.core (w : World) : Registry × (Obj → Option Handler) × Nat × Option Nat :=
  (w.reg, w.cb, w.fresh, w.lib)

/-! ### What a notification changes -/

section Notify
variable (reply : Handler → Notice → Except PyExc PyVal) (E : Engine)

@[simp] theorem returnsNone_snd (x : Outcome PyVal) : (returnsNone x).2 = x.2 := by
  cases x
  rfl

@[simp] theorem invoke_core (w : World) (k : Kind) (o : Obj) (n : Notice) :
    (invoke reply w k o n).2.core = w.core := by
  unfold invoke
  split <;> rfl

@[simp] theorem callScoped_core (w : World) (c : Int) (n : Notice) (d : PyVal) :
    (callScoped reply w c n d).2.core = w.core := by
  unfold callScoped
  split <;> simp

theorem imRoute_core (w : World) (c : Int) (uri : String) (a : Int) (toCall toBuddy toAccount : Notice) :
    (imRoute reply E w c uri a toCall toBuddy toAccount).2.core = w.core := by
  unfold imRoute
  dsimp only
  generalize (if c = -1 then w.reg.lookupCall c else none) = call
  generalize w.reg.lookupBuddy E (-1) (some uri) = buddy
  generalize w.reg.lookupAccount a = acc
  cases call <;> rcases buddy with _ | _ | _ <;> cases acc <;> simp

/-- All a notification does to the registry, the handlers and the identities: nothing, or, for
an incoming call on a mapped account, what `Call(lib, call_id)` does. -/
theorem deliver_core (w : World) (n : Notification) :
    (deliver reply E w n).2.core = w.core ∨
      ∃ c, (deliver reply E w n).2.core = (Call.new E w c).2.core := by
  unfold deliver
  split
  · exact .inl rfl
  · cases n with
    | onIncomingCall a c =>
        simp only [cbOnIncomingCall]
        split
        · split
          · split_ifs
            · refine .inr ⟨c, ?_⟩
              split <;> rename_i heq <;> rw [heq]
              rfl
            · exact .inl rfl
          · exact .inl rfl
        · exact .inl rfl
    | onCallReplaced old new =>
        simp only [cbOnCallReplaced]
        split <;> simp
    | onRegState a =>
        simp only [cbOnRegState]
        split <;> simp
    | onBuddyState b =>
        simp only [cbOnBuddyState]
        split <;> simp
    | onPager c fromUri toUri contact mimeType body a =>
        exact .inl (by simp only [cbOnPager, imRoute_core])
    | onPagerStatus c toUri body userData status reason a =>
        exact .inl (by simp only [cbOnPagerStatus, imRoute_core])
    | onTyping c fromUri toUri contact isTyping a =>
        exact .inl (by simp only [cbOnTyping, imRoute_core])
    | _ =>
        simp [cbOnCallState, cbOnCallMediaState, cbOnDtmfDigit, cbOnCallTransferRequest,
          cbOnCallTransferStatus, cbOnCallReplaceRequest]

end Notify

/-! ### The module's own handlers -/

def Kind.callbackClass : Kind → HandlerClass
  | .call => .callCallback
  | .account => .accountCallback
  | .buddy => .buddyCallback

/-- The methods of `CallCallback`, `AccountCallback` and `BuddyCallback`, and `app` for the
application's classes. `on_transfer_request` returns `code`, `on_transfer_status` returns
`cont`, `on_replace_request` returns `(code, reason)`, `AccountCallback.on_incoming_call` runs
`call.hangup()` (status `hangupErr`; its request is not logged here), and the other methods
return `None`. A method the class lacks raises `AttributeError`. -/
def moduleReply (app : Handler → Notice → Except PyExc PyVal) (hangupErr : Int) (h : Handler)
    (n : Notice) : Except PyExc PyVal :=
  match h.cls, n with
  | .app _ _, n => app h n
  | .callCallback, .onTransferRequest _ code => .ok (.int code)
  | .callCallback, .onTransferStatus _ _ _ cont => .ok (.bool cont)
  | .callCallback, .onReplaceRequest code reason => .ok (.pair (.int code) (.str reason))
  | .callCallback, .onState | .callCallback, .onMediaState | .callCallback, .onDtmfDigit _
  | .callCallback, .onReplaced _ | .callCallback, .callOnPager .. | .callCallback, .callOnPagerStatus ..
  | .callCallback, .callOnTyping _ => .ok .none
  | .accountCallback, .onIncomingCall call => (Call.hangup call hangupErr).map fun _ => .none
  | .accountCallback, .onRegState | .accountCallback, .accountOnPager ..
  | .accountCallback, .accountOnPagerStatus .. | .accountCallback, .accountOnTyping .. => .ok .none
  | .buddyCallback, .buddyOnState | .buddyCallback, .buddyOnPager ..
  | .buddyCallback, .buddyOnPagerStatus .. | .buddyCallback, .buddyOnTyping _ => .ok .none
  | _, _ => .error .attributeError

/-- With the module's own handler on the wrapper a notification is addressed to, the engine gets
back the default it supplied: the suggested code of a transfer request, `cont` for a transfer
status, `(code, reason)` for a replace request, and `None` for the rest. -/
theorem module_handler_answers_engine_default (app : Handler → Notice → Except PyExc PyVal)
    (hangupErr : Int) (E : Engine) {w : World} {n : Notification} {k : Kind} {o : Obj}
    {m : Notice} {h : Handler} (hl : w.lib.isSome) (ha : n.addressee E w.reg = some (k, o, m))
    (hh : w.handler k o = some h) (hcls : h.cls = k.callbackClass) :
    (deliver (moduleReply app hangupErr) E w n).1 = .ok n.engineDefault := by
  rw [deliver_addressed hl ha hh]
  unfold moduleReply
  rw [hcls]
  cases n <;> simp only [Notification.addressee, Option.map_eq_some'] at ha
  case onCallReplaced old new =>
    split at ha <;> cases ha
    rfl
  all_goals (obtain ⟨o', -, ⟨⟩⟩ := ha) <;> rfl

/-- A call with the `CallCallback` its constructor installs accepts a transfer with the code
the engine suggested. -/
theorem default_call_handler_accepts_transfer :
    let w : World := ⟨Registry.empty.associateCall 1 ⟨0, 1⟩,
      fun _ => some ⟨1, .callCallback, some ⟨0, 1⟩⟩, some 0, 2, []⟩
    (deliver (moduleReply (fun _ _ => .ok .none) 0) Engine.blank w
        (.onCallTransferRequest 1 "sip:carol@example.com" 202)).1 = .ok (.int 202) :=
  @module_handler_answers_engine_default (fun _ _ => .ok .none) 0 Engine.blank _ _ .call ⟨0, 1⟩
    (.onTransferRequest "sip:carol@example.com" 202) ⟨1, .callCallback, some ⟨0, 1⟩⟩ rfl rfl rfl rfl

/-! ### What the API calls change -/

theorem Lib.createAccount_snd (E : Engine) (w : World) (self : Nat) (answer : Int × Int) :
    (Lib.createAccount E w self answer).2 = w ∨
      ∃ id, (Lib.createAccount E w self answer).2 = (Account.new E w id).2 := by
  unfold Lib.createAccount
  split
  · exact .inr ⟨_, rfl⟩
  · exact .inl rfl

theorem Lib.createAccountForTransport_snd (E : Engine) (w : World) (self : Nat)
    (answer : Int × Int) :
    (Lib.createAccountForTransport E w self answer).2 = w ∨
      ∃ id, (Lib.createAccountForTransport E w self answer).2 = (Account.new E w id).2 := by
  unfold Lib.createAccountForTransport
  split
  · exact .inr ⟨_, rfl⟩
  · exact .inl rfl

theorem Account.makeCall_snd (E : Engine) (w : World) (self : Obj) (answer : Int × Int) :
    (Account.makeCall E w self answer).2 = w ∨
      ∃ c, (Account.makeCall E w self answer).2 = (Call.new E w c).2 := by
  unfold Account.makeCall
  split
  · exact .inr ⟨_, rfl⟩
  · exact .inl rfl

theorem Account.addBuddy_snd (E : Engine) (w : World) (self : Obj) (answer : Int × Int) :
    (Account.addBuddy E w self answer).2 = w ∨
      ∃ id, (Account.addBuddy E w self answer).2 = (Buddy.new E w id).2 := by
  unfold Account.addBuddy
  split
  · exact .inr ⟨_, rfl⟩
  · exact .inl rfl

theorem Lib.new_fresh (createErr : Int) (w : World) : (Lib.new createErr w).2.fresh = w.fresh + 1 := by
  unfold Lib.new
  dsimp only
  split_ifs
  · rfl
  · cases errCheck "_pjsua.create()" .none createErr "" <;> rfl

@[simp] theorem setCallback_reg (cls : HandlerClass) (w : World) (self : Obj) (cb : Option Handler) :
    (setCallback cls w self cb).reg = w.reg := by
  cases cb <;> rfl

theorem setCallback_fresh (cls : HandlerClass) (w : World) (self : Obj) (cb : Option Handler) :
    w.fresh ≤ (setCallback cls w self cb).fresh := by
  cases cb
  · exact Nat.le_succ _
  · exact Nat.le_refl _

/-- Releasing a call or an account leaves the registry as it was; releasing a buddy is its
disassociation. -/
theorem release_del_cases (E : Engine) (r : Registry) (k : Kind) (o : Obj) :
    release r (del E r k o) = r ∨ release r (del E r k o) = r.apply E (.disassociate k o) := by
  cases k
  · exact .inl rfl
  · exact .inl rfl
  · exact .inr rfl

/-! ### The system -/

/-- A step of the application and the engine. -/
inductive SysOp
  | wrapper (op : WrapperOp)
  | createAccount (self : Nat) (answer : Int × Int)
  | createAccountForTransport (self : Nat) (answer : Int × Int)
  | makeCall (acc : Obj) (answer : Int × Int)
  | addBuddy (acc : Obj) (answer : Int × Int)
  | notify (n : Notification)
  | release (k : Kind) (o : Obj)
  | libNew (createErr : Int)
  | libDestroy
  | libDel

/-- What one step can do to the registry, the installed handlers, the identities and `_lib`.
`owned` is what the step's caller promises about a handler it installs; only a step of the `Lib`
lifecycle, `lifecycle`, sets or clears `_lib`. -/
inductive Changes (E : Engine) (owned lifecycle : Prop) (w : World) : World → Prop
  | keep {w' : World} : w'.core = w.core → Changes E owned lifecycle w w'
  | lib {w' : World} : lifecycle → w'.reg = w.reg → w'.cb = w.cb → w.fresh ≤ w'.fresh →
      Changes E owned lifecycle w w'
  | call {w' : World} (c : Int) : w'.core = (Call.new E w c).2.core → Changes E owned lifecycle w w'
  | account {w' : World} (id : Int) : w'.core = (Account.new E w id).2.core →
      Changes E owned lifecycle w w'
  | buddy {w' : World} (id : Int) : w'.core = (Buddy.new E w id).2.core →
      Changes E owned lifecycle w w'
  | install {w' : World} (cls : HandlerClass) (self : Obj) (cb : Option Handler) :
      (owned → ∀ c, cb = some c → c.ownedBy self = true) →
      w'.core = (setCallback cls w self cb).core → Changes E owned lifecycle w w'
  | release {w' : World} (k : Kind) (o : Obj) :
      w'.core = (release w.reg (del E w.reg k o), w.cb, w.fresh, w.lib) →
      Changes E owned lifecycle w w'

theorem World.reg_of_core {w w' : World} (h : w'.core = w.core) : w'.reg = w.reg :=
  congrArg Prod.fst h

theorem World.cb_of_core {w w' : World} (h : w'.core = w.core) : w'.cb = w.cb :=
  congrArg (fun c => c.2.1) h

theorem World.fresh_of_core {w w' : World} (h : w'.core = w.core) : w'.fresh = w.fresh :=
  congrArg (fun c => c.2.2.1) h

theorem World.lib_of_core {w w' : World} (h : w'.core = w.core) : w'.lib = w.lib :=
  congrArg (fun c => c.2.2.2) h

theorem setCallback_lib (cls : HandlerClass) (w : World) (self : Obj) (cb : Option Handler) :
    (setCallback cls w self cb).lib = w.lib := by
  cases cb <;> rfl

/-- Outside the `Lib` lifecycle, `_lib` stays as it was. -/
theorem Changes.lib_eq {E : Engine} {owned lifecycle : Prop} {w w' : World}
    (hc : Changes E owned lifecycle w w') (hl : ¬ lifecycle) : w'.lib = w.lib := by
  cases hc with
  | keep h => exact World.lib_of_core h
  | call _ h | account _ h | buddy _ h | release _ _ h => exact congrArg (fun c => c.2.2.2) h
  | lib h => exact absurd h hl
  | install cls self cb _ h => exact (World.lib_of_core h).trans (setCallback_lib cls w self cb)

namespace SysOp
variable (reply : Handler → Notice → Except PyExc PyVal) (E : Engine)

/-- One step; an exception leaves the world its code left. -/
def apply (w : World) : SysOp → World
  | .wrapper op => op.apply E w
  | .createAccount self answer => (Lib.createAccount E w self answer).2
  | .createAccountForTransport self answer => (Lib.createAccountForTransport E w self answer).2
  | .makeCall acc answer => (Account.makeCall E w acc answer).2
  | .addBuddy acc answer => (Account.addBuddy E w acc answer).2
  | .notify n => (deliver reply E w n).2
  | .release k o => { w with reg := Pjsua.release w.reg (del E w.reg k o) }
  | .libNew createErr => (Lib.new createErr w).2
  | .libDestroy => Lib.destroy w
  | .libDel => Lib.del w

def run (w : World) (ops : List SysOp) : World := ops.foldl (apply reply E) w

def passesOwned : SysOp → Bool
  | .wrapper op => op.passesOwned
  | _ => true

def keepsLib : SysOp → Bool
  | .libNew _ | .libDestroy | .libDel => false
  | _ => true

/-- What each step can do. -/
theorem changes (w : World) (op : SysOp) :
    Changes E (op.passesOwned = true) (op.keepsLib = false) w (op.apply reply E w) := by
  cases op with
  | wrapper op =>
      cases op with
      | newCall c => exact .call c rfl
      | newAccount id => exact .account id rfl
      | newBuddy id => exact .buddy id rfl
      | setCallback k self cb =>
          have hcb : (SysOp.wrapper (.setCallback k self cb)).passesOwned = true →
              ∀ c, cb = some c → c.ownedBy self = true := by
            rintro h c rfl
            exact h
          cases k
          · exact .install .callCallback self cb hcb rfl
          · exact .install .accountCallback self cb hcb rfl
          · exact .install .buddyCallback self cb hcb rfl
  | createAccount self answer =>
      rcases Lib.createAccount_snd E w self answer with h | ⟨id, h⟩
      · exact .keep (congrArg World.core h)
      · exact .account id (congrArg World.core h)
  | createAccountForTransport self answer =>
      rcases Lib.createAccountForTransport_snd E w self answer with h | ⟨id, h⟩
      · exact .keep (congrArg World.core h)
      · exact .account id (congrArg World.core h)
  | makeCall acc answer =>
      rcases Account.makeCall_snd E w acc answer with h | ⟨c, h⟩
      · exact .keep (congrArg World.core h)
      · exact .call c (congrArg World.core h)
  | addBuddy acc answer =>
      rcases Account.addBuddy_snd E w acc answer with h | ⟨id, h⟩
      · exact .keep (congrArg World.core h)
      · exact .buddy id (congrArg World.core h)
  | notify n =>
      rcases deliver_core reply E w n with h | ⟨c, h⟩
      · exact .keep h
      · exact .call c h
  | release k o => exact .release k o rfl
  | libNew createErr =>
      exact .lib rfl (Lib.new_reg createErr w) (Lib.new_cb createErr w)
        ((Nat.le_succ _).trans_eq (Lib.new_fresh createErr w).symm)
  | libDestroy => exact .lib rfl rfl rfl (Nat.le_refl _)
  | libDel => exact .keep rfl

theorem apply_lib (w : World) {op : SysOp} (hop : op.keepsLib = true) :
    (op.apply reply E w).lib = w.lib :=
  (op.changes reply E w).lib_eq (by simp [hop])

theorem run_lib (w : World) {ops : List SysOp} (hops : ∀ op ∈ ops, op.keepsLib = true) :
    (run reply E w ops).lib = w.lib := by
  induction ops generalizing w with
  | nil => rfl
  | cons op ops ih =>
      exact (ih _ fun op' h => hops op' (List.mem_cons_of_mem _ h)).trans
        (apply_lib reply E w (hops op (List.mem_cons_self _ _)))

end SysOp

/-! ### Every reachable world -/

@[simp] theorem World.setCb_handler (w : World) (o : Obj) (h : Handler) (k : Kind) (o' : Obj) :
    (w.setCb o h).handler k o' = if o' = o then some h else w.handler k o' := by
  by_cases e : o' = o <;> simp [World.handler, World.setCb, e]

theorem World.handler_congr {w w' : World} (hc : w'.cb = w.cb) (k : Kind) (o : Obj) :
    w'.handler k o = w.handler k o := by
  simp [World.handler, hc]

/-- What holds of every world the system reaches: every wrapper the registry maps has a
handler, and every handler of the module's classes installed on a wrapper points back at it. -/
structure Wired (E : Engine) (w : World) : Prop where
  mapped : ∀ k h o, w.reg.lookup E k h = some o → (w.handler k o).isSome
  pointsBack : PointsBack w.cb

namespace Wired
variable {E : Engine} {w : World}

theorem init (E : Engine) : Wired E World.init :=
  ⟨(fun k h o ho => by cases k <;> cases ho), fun _ _ h => Option.noConfusion h⟩

theorem of_eq {w' : World} (hw : Wired E w) (hr : w'.reg = w.reg) (hc : w'.cb = w.cb) :
    Wired E w' := by
  refine ⟨fun k h o ho => ?_, hc ▸ hw.pointsBack⟩
  rw [World.handler_congr hc]
  exact hw.mapped k h o (hr ▸ ho)

theorem of_core {w' : World} (hw : Wired E w) (h : w'.core = w.core) : Wired E w' :=
  hw.of_eq (World.reg_of_core h) (World.cb_of_core h)

theorem setCb (hw : Wired E w) {o : Obj} {h : Handler} (hh : h.ownedBy o = true) :
    Wired E (w.setCb o h) := by
  refine ⟨fun k h' o' ho => ?_, hw.pointsBack.setCb hh⟩
  rw [World.setCb_handler]
  split_ifs
  exacts [rfl, hw.mapped k h' o' ho]

theorem associate {w' : World} (hw : Wired E w) (k : Kind) (h : Int) (o : Obj)
    (ho : (w.handler k o).isSome) (hr : w'.reg = w.reg.apply E (.associate k h o))
    (hc : w'.cb = w.cb) : Wired E w' := by
  refine ⟨fun k' h' o' hl => ?_, hc ▸ hw.pointsBack⟩
  rw [hr, Registry.lookup_associate] at hl
  rw [World.handler_congr hc]
  split_ifs at hl with e
  · obtain ⟨rfl, -⟩ := e
    cases hl
    exact ho
  · exact hw.mapped k' h' o' hl

theorem disassociate {w' : World} (hw : Wired E w) (k : Kind) (o : Obj)
    (hr : w'.reg = w.reg.apply E (.disassociate k o)) (hc : w'.cb = w.cb) : Wired E w' := by
  refine ⟨fun k' h' o' hl => ?_, hc ▸ hw.pointsBack⟩
  rw [hr, Registry.lookup_disassociate] at hl
  rw [World.handler_congr hc]
  split_ifs at hl
  exact hw.mapped k' h' o' hl

theorem call_new (hw : Wired E w) (c : Int) : Wired E (Call.new E w c).2 :=
  (hw.setCb (Handler.ownedBy_mk ..)).associate .call c ⟨w.fresh, c⟩ (by simp) rfl rfl

theorem account_new (hw : Wired E w) (id : Int) : Wired E (Account.new E w id).2 :=
  hw.associate .account id ⟨w.fresh, id⟩ (World.handler_account_isSome _ _) rfl rfl

theorem buddy_new (hw : Wired E w) (id : Int) : Wired E (Buddy.new E w id).2 :=
  (hw.setCb (Handler.ownedBy_mk ..)).associate .buddy id ⟨w.fresh, id⟩ (by simp) rfl rfl

theorem setCallback (hw : Wired E w) (cls : HandlerClass) (self : Obj) {cb : Option Handler}
    (hcb : ∀ c, cb = some c → c.ownedBy self = true) :
    Wired E (Pjsua.setCallback cls w self cb) := by
  cases cb with
  | some c => exact hw.setCb (hcb c rfl)
  | none => exact (@of_eq E w (w.newHandler cls self).2 hw rfl rfl).setCb (Handler.ownedBy_mk ..)

theorem release (hw : Wired E w) (k : Kind) (o : Obj) :
    Wired E { w with reg := Pjsua.release w.reg (del E w.reg k o) } := by
  rcases release_del_cases E w.reg k o with h | h
  · exact hw.of_eq h rfl
  · exact hw.disassociate k o h rfl

theorem of_changes {owned lifecycle : Prop} {w' : World} (hw : Wired E w)
    (hc : Changes E owned lifecycle w w') (ho : owned) : Wired E w' := by
  cases hc with
  | keep h => exact hw.of_core h
  | lib _ hr hcb _ => exact hw.of_eq hr hcb
  | call c h => exact (hw.call_new c).of_core h
  | account id h => exact (hw.account_new id).of_core h
  | buddy id h => exact (hw.buddy_new id).of_core h
  | install cls self cb hcb h => exact (hw.setCallback cls self (hcb ho)).of_core h
  | release k o h => exact (hw.release k o).of_core h

theorem run (reply : Handler → Notice → Except PyExc PyVal) (hw : Wired E w) {ops : List SysOp}
    (hops : ∀ op ∈ ops, op.passesOwned = true) : Wired E (SysOp.run reply E w ops) := by
  induction ops generalizing w with
  | nil => exact hw
  | cons op ops ih =>
      exact ih (hw.of_changes (op.changes reply E w) (hops op (List.mem_cons_self _ _)))
        fun op' h => hops op' (List.mem_cons_of_mem _ h)

end Wired

/-- Every world the system reaches from the start, whatever the engine answers and whatever the
application's handlers do, as long as each `set_callback` passes a handler its wrapper owns:
every wrapper the registry maps has a handler, so a dispatch to it never meets `None`; and what
a wrapper's `_cb` resolves to, if it is a handler of the module's classes, is the class
attribute `Account._cb` or a handler whose back-reference is that wrapper and that no other
wrapper's `_cb` resolves to. -/
theorem reachable_world_invariant (reply : Handler → Notice → Except PyExc PyVal) (E : Engine)
    (ops : List SysOp) (hops : ∀ op ∈ ops, op.passesOwned = true) :
    (∀ k h o, (SysOp.run reply E World.init ops).reg.lookup E k h = some o →
        ((SysOp.run reply E World.init ops).handler k o).isSome) ∧
      ∀ k o h, (SysOp.run reply E World.init ops).handler k o = some h → h.cls.isApp = false →
        h = Handler.accountClassDefault ∨ h.target = some o ∧
          ∀ k' o', (SysOp.run reply E World.init ops).handler k' o' = some h → o' = o := by
  obtain ⟨hm, hp⟩ := (Wired.init E).run reply hops
  exact ⟨hm, fun _ _ _ ho hmod => hp.handler hmod ho⟩

/-- A `Lib`, an account, an outgoing call, an incoming call, a handler reset and a release. -/
theorem call_session_well_formed :
    let ops : List SysOp := [.libNew 0, .createAccount 1 (0, 0), .makeCall ⟨2, 0⟩ (0, 3),
      .notify (.onIncomingCall 0 4), .wrapper (.setCallback .call ⟨4, 3⟩ none), .release .call ⟨4, 3⟩]
    let w := SysOp.run (fun _ _ => .ok .none) Engine.blank World.init ops
    (∀ op ∈ ops, op.passesOwned = true) ∧
      (∀ k h o, w.reg.lookup Engine.blank k h = some o → (w.handler k o).isSome) ∧
      ∀ k o h, w.handler k o = some h → h.cls.isApp = false →
        h = Handler.accountClassDefault ∨ h.target = some o ∧
          ∀ k' o', w.handler k' o' = some h → o' = o :=
  ⟨by decide, reachable_world_invariant (fun _ _ => .ok .none) Engine.blank _ (by decide)⟩

/-! ### Calls and accounts are never removed -/

/-- From `d` to `d'` no entry is removed, and an entry that changes holds an object numbered
`n` or later. -/
def Dict.Keeps (n : Nat) (d d' : Dict Int Obj) : Prop :=
  ∀ h, d'.lookup h = d.lookup h ∨ ∃ o, d'.lookup h = some o ∧ n ≤ o.oid

theorem Dict.Keeps.refl (n : Nat) (d : Dict Int Obj) : d.Keeps n d := fun _ => .inl rfl

theorem Dict.Keeps.trans {n m : Nat} {d d' d'' : Dict Int Obj} (h₁ : d.Keeps n d')
    (h₂ : d'.Keeps m d'') (hnm : n ≤ m) : d.Keeps n d'' := fun h => by
  rcases h₂ h with e₂ | ⟨o, ho, hm⟩
  · rcases h₁ h with e₁ | ⟨o, ho', hn⟩
    · exact .inl (e₂.trans e₁)
    · exact .inr ⟨o, e₂.trans ho', hn⟩
  · exact .inr ⟨o, ho, hnm.trans hm⟩

theorem Dict.Keeps.set (d : Dict Int Obj) (c : Int) {o : Obj} {n : Nat} (hn : n ≤ o.oid) :
    d.Keeps n (d.set c o) := fun h => by
  by_cases e : h = c
  · exact .inr ⟨o, by simp [e], hn⟩
  · exact .inl (by simp [e])

@[simp] theorem release_call_map (E : Engine) (r : Registry) (k : Kind) (o : Obj) :
    (release r (del E r k o)).call = r.call := by
  cases k
  · rfl
  · rfl
  · exact Registry.disassociateBuddy_call E r o

@[simp] theorem release_account_map (E : Engine) (r : Registry) (k : Kind) (o : Obj) :
    (release r (del E r k o)).account = r.account := by
  cases k
  · rfl
  · rfl
  · exact Registry.disassociateBuddy_account E r o

/-- From `w` to `w'`: identities only grow, and the call and account maps keep every entry,
an entry that changes holding a wrapper numbered from `w.fresh` on. -/
structure Persists (w w' : World) : Prop where
  fresh_le : w.fresh ≤ w'.fresh
  call : w.reg.call.Keeps w.fresh w'.reg.call
  account : w.reg.account.Keeps w.fresh w'.reg.account

namespace Persists

theorem refl (w : World) : Persists w w :=
  ⟨Nat.le_refl _, .refl _ _, .refl _ _⟩

theorem trans {w w' w'' : World} (h₁ : Persists w w') (h₂ : Persists w' w'') : Persists w w'' :=
  ⟨h₁.fresh_le.trans h₂.fresh_le, h₁.call.trans h₂.call h₁.fresh_le,
    h₁.account.trans h₂.account h₁.fresh_le⟩

theorem of_core {w w' w'' : World} (h : Persists w w') (hc : w''.core = w'.core) :
    Persists w w'' := by
  obtain ⟨h₁, h₂, h₃⟩ := h
  rw [← World.reg_of_core hc] at h₂ h₃
  rw [← World.fresh_of_core hc] at h₁
  exact ⟨h₁, h₂, h₃⟩

theorem of_changes {E : Engine} {owned lifecycle : Prop} {w w' : World}
    (hc : Changes E owned lifecycle w w') : Persists w w' := by
  cases hc with
  | keep h => exact (refl w).of_core h
  | lib _ hr _ hf => exact ⟨hf, hr ▸ .refl _ _, hr ▸ .refl _ _⟩
  | call c h =>
      exact @Persists.of_core _ (Call.new E w c).2 _
        ⟨Nat.le_add_right _ _, .set _ _ (Nat.le_refl _), .refl _ _⟩ h
  | account id h =>
      exact @Persists.of_core _ (Account.new E w id).2 _
        ⟨Nat.le_add_right _ _, .refl _ _, .set _ _ (Nat.le_refl _)⟩ h
  | buddy id h =>
      exact @Persists.of_core _ (Buddy.new E w id).2 _
        ⟨Nat.le_add_right _ _, by rw [Buddy.new_reg, Registry.associateBuddy_call]; exact .refl _ _,
          by rw [Buddy.new_reg, Registry.associateBuddy_account]; exact .refl _ _⟩ h
  | install cls self cb _ h =>
      exact @Persists.of_core _ (setCallback cls w self cb) _
        ⟨setCallback_fresh .., by rw [setCallback_reg]; exact .refl _ _,
          by rw [setCallback_reg]; exact .refl _ _⟩ h
  | release k o h =>
      exact @Persists.of_core _ { w with reg := release w.reg (del E w.reg k o) } _
        ⟨Nat.le_refl _, by simp only [release_call_map]; exact .refl _ _,
          by simp only [release_account_map]; exact .refl _ _⟩ h

theorem run (reply : Handler → Notice → Except PyExc PyVal) (E : Engine) (w : World)
    (ops : List SysOp) : Persists w (SysOp.run reply E w ops) := by
  induction ops generalizing w with
  | nil => exact .refl w
  | cons op ops ih => exact (of_changes (op.changes reply E w)).trans (ih _)

end Persists

/-- No run removes a call or an account from the registry, whatever the engine answers, the
handlers do, and the application releases: a handle mapped before is mapped after, to the same
wrapper or to one numbered from the run's first fresh identity on, that is, built during the
run. -/
theorem calls_and_accounts_persist (reply : Handler → Notice → Except PyExc PyVal) (E : Engine)
    (w : World) (ops : List SysOp) (h : Int) :
    ((SysOp.run reply E w ops).reg.lookupCall h = w.reg.lookupCall h ∨
        ∃ o, (SysOp.run reply E w ops).reg.lookupCall h = some o ∧ w.fresh ≤ o.oid) ∧
      ((SysOp.run reply E w ops).reg.lookupAccount h = w.reg.lookupAccount h ∨
        ∃ o, (SysOp.run reply E w ops).reg.lookupAccount h = some o ∧ w.fresh ≤ o.oid) :=
  ⟨(Persists.run reply E w ops).call h, (Persists.run reply E w ops).account h⟩

/-! ### The registry a run leaves -/

/-- `r'` is `r` after a history of `_associate_*` and `_disassociate_*` calls that associates
every wrapper under its own `_id`. -/
def Registry.Replays (E : Engine) (r r' : Registry) : Prop :=
  ∃ ops, OwnHandles ops ∧ r' = r.run E ops

namespace Registry.Replays
variable {E : Engine}

theorem refl (r : Registry) : Replays E r r :=
  ⟨[], fun _ _ _ h => absurd h (List.not_mem_nil _), rfl⟩

theorem trans {r r' r'' : Registry} (h₁ : Replays E r r') (h₂ : Replays E r' r'') :
    Replays E r r'' := by
  obtain ⟨ops₁, hown₁, rfl⟩ := h₁
  obtain ⟨ops₂, hown₂, rfl⟩ := h₂
  refine ⟨ops₁ ++ ops₂, fun k h o hm => ?_, (List.foldl_append _ _ _ _).symm⟩
  rcases List.mem_append.mp hm with hm | hm
  exacts [hown₁ k h o hm, hown₂ k h o hm]

theorem single (r : Registry) (op : RegOp) (hop : ∀ k h o, op = .associate k h o → h = o.id) :
    Replays E r (r.apply E op) :=
  ⟨[op], fun k h o hm => hop k h o (List.mem_singleton.mp hm).symm, rfl⟩

/-- A step reaches the registry only through the registry's own methods. -/
theorem of_changes {owned lifecycle : Prop} {w w' : World}
    (hc : Changes E owned lifecycle w w') : Replays E w.reg w'.reg := by
  cases hc with
  | keep h => exact World.reg_of_core h ▸ refl _
  | lib _ hr _ _ => exact hr ▸ refl _
  | call c h =>
      rw [World.reg_of_core h]
      exact single _ (.associate .call c ⟨w.fresh, c⟩) (by rintro _ _ _ ⟨⟩; rfl)
  | account id h =>
      rw [World.reg_of_core h]
      exact single _ (.associate .account id ⟨w.fresh, id⟩) (by rintro _ _ _ ⟨⟩; rfl)
  | buddy id h =>
      rw [World.reg_of_core h]
      exact single _ (.associate .buddy id ⟨w.fresh, id⟩) (by rintro _ _ _ ⟨⟩; rfl)
  | install cls self cb _ h =>
      rw [World.reg_of_core h, setCallback_reg]
      exact refl _
  | release k o h =>
      have hr : w'.reg = release w.reg (del E w.reg k o) := congrArg Prod.fst h
      rcases release_del_cases E w.reg k o with he | he <;> rw [hr, he]
      · exact refl _
      · exact single _ (.disassociate k o) (by rintro _ _ _ ⟨⟩)

theorem run (reply : Handler → Notice → Except PyExc PyVal) (w : World) (ops : List SysOp) :
    Replays E w.reg (SysOp.run reply E w ops).reg := by
  induction ops generalizing w with
  | nil => exact refl _
  | cons op ops ih => exact (of_changes (op.changes reply E w)).trans (ih _)

theorem expected {r : Registry} (h : Replays E Registry.empty r) :
    ∃ hist : List RegOp, OwnHandles hist ∧ r = Registry.empty.run E hist ∧
      ∀ k h, r.lookup E k h = expectedLookup k h hist := by
  obtain ⟨hist, hown, rfl⟩ := h
  exact ⟨hist, hown, rfl, Registry.lookup_run_eq_expected E hist hown⟩

end Registry.Replays

/-- The system reaches the registry only through `_associate_*` and `_disassociate_*`, each
wrapper under its own `_id`, whatever the application, the engine and the handlers do: the
registry of every reachable world is the replay of such a history, and each lookup answers the
wrapper most recently associated under its handle, unless that wrapper was disassociated
since. -/
theorem reachable_registry_replays_history (reply : Handler → Notice → Except PyExc PyVal)
    (E : Engine) (ops : List SysOp) :
    ∃ hist : List RegOp, OwnHandles hist ∧
      (SysOp.run reply E World.init ops).reg = Registry.empty.run E hist ∧
      ∀ k h, (SysOp.run reply E World.init ops).reg.lookup E k h = expectedLookup k h hist :=
  (Registry.Replays.run reply World.init ops).expected

end Pjsua
