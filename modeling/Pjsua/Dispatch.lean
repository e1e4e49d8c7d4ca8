import Pjsua.Wrappers

/-!
The callback spine. The engine delivers a notification to one of the module-level functions
`Lib.init` installs in its callback slots; each forwards to the `Lib._cb_on_*` method of the
same name on the global `_lib`. A method looks its target up in the registry and runs the
method of the handler installed on it, or applies its own default when nothing is mapped.
What a handler method does is the application's: `reply` gives its answer.
-/

namespace Pjsua

abbrev Outcome (α : Type) := Except PyExc α × World

/-- A notification the engine delivers, with the arguments the module reads (the opaque
`e` and `rdata` arguments are never read). -/
inductive Notification
  | onCallState (callId : Int)
  | onIncomingCall (accId callId : Int)
  | onCallMediaState (callId : Int)
  | onDtmfDigit (callId : Int) (digits : String)
  | onCallTransferRequest (callId : Int) (dst : String) (code : Int)
  | onCallTransferStatus (callId code : Int) (reason : String) (final cont : Bool)
  | onCallReplaceRequest (callId code : Int) (reason : String)
  | onCallReplaced (oldCallId newCallId : Int)
  | onRegState (accId : Int)
  | onBuddyState (buddyId : Int)
  | onPager (callId : Int) (fromUri toUri contact mimeType body : String) (accId : Int)
  | onPagerStatus (callId : Int) (toUri body : String) (userData status : Int) (reason : String)
      (accId : Int)
  | onTyping (callId : Int) (fromUri toUri contact : String) (isTyping : Bool) (accId : Int)
  deriving DecidableEq, Repr

namespace Notification

def targeted : Notification → Bool
  | .onIncomingCall .. | .onPager .. | .onPagerStatus .. | .onTyping .. => false
  | _ => true

/-- The wrapper a scoped notification is addressed to when the handles it names are mapped,
with its kind and the handler method it is given. -/
def addressee (E : Engine) (r : Registry) : Notification → Option (Kind × Obj × Notice)
  | .onCallState c => (r.lookupCall c).map fun o => (.call, o, .onState)
  | .onCallMediaState c => (r.lookupCall c).map fun o => (.call, o, .onMediaState)
  | .onDtmfDigit c d => (r.lookupCall c).map fun o => (.call, o, .onDtmfDigit d)
  | .onCallTransferRequest c dst code =>
      (r.lookupCall c).map fun o => (.call, o, .onTransferRequest dst code)
  | .onCallTransferStatus c code reason final cont =>
      (r.lookupCall c).map fun o => (.call, o, .onTransferStatus code reason final cont)
  | .onCallReplaceRequest c code reason =>
      (r.lookupCall c).map fun o => (.call, o, .onReplaceRequest code reason)
  | .onCallReplaced old new =>
      match r.lookupCall old, r.lookupCall new with
      | some o, some n => some (.call, o, .onReplaced n)
      | _, _ => none
  | .onRegState a => (r.lookupAccount a).map fun o => (.account, o, .onRegState)
  | .onBuddyState b => (r.lookup E .buddy b).map fun o => (.buddy, o, .buddyOnState)
  | _ => none

def expectsReply : Notification → Bool
  | .onCallTransferRequest .. | .onCallTransferStatus .. | .onCallReplaceRequest .. => true
  | _ => false

def fallback : Notification → PyVal
  | .onCallTransferRequest .. => .int 603
  | .onCallTransferStatus _ _ _ _ cont => .bool cont
  | .onCallReplaceRequest _ code reason => .pair (.int code) (.str reason)
  | _ => .none

def engineDefault : Notification → PyVal
  | .onCallTransferRequest _ _ code => .int code
  | n => n.fallback

end Notification

variable (reply : Handler → Notice → Except PyExc PyVal) (E : Engine)

/-- Running method `n` of handler `h`: logged, and answered by the application's code. -/
def runHandler (w : World) (h : Handler) (n : Notice) : Outcome PyVal :=
  (reply h n, { w with log := w.log ++ [.invoke h n] })

/-- `o._cb.<method>(args)` on a wrapper of kind `k`; a `_cb` that reads `None` raises. -/
def invoke (w : World) (k : Kind) (o : Obj) (n : Notice) : Outcome PyVal :=
  match w.handler k o with
  | some h => runHandler reply w h n
  | none => (.error .attributeError, w)

def returnsNone : Outcome PyVal → Outcome PyVal
  | (r, w) => (r.map fun _ => .none, w)

/-- `_cb_on_reg_state(acc_id)` -/
def cbOnRegState (w : World) (accId : Int) : Outcome PyVal :=
  match w.reg.lookupAccount accId with
  | some acc => returnsNone (invoke reply w .account acc .onRegState)
  | none => (.ok .none, w)

/-- `_cb_on_incoming_call(acc_id, call_id, rdata)`: `acc._cb.on_incoming_call` is resolved
before its argument `Call(self, call_id)` is built, and raises `AttributeError` for a handler
without the method; with no account, the call is hung up with 603. -/
def cbOnIncomingCall (w : World) (accId callId : Int) : Outcome PyVal :=
  match w.reg.lookupAccount accId with
  | some acc =>
      match w.handler .account acc with
      | some h =>
          if h.cls.hasOnIncomingCall then
            match Call.new E w callId with
            | (.ok call, w) => returnsNone (runHandler reply w h (.onIncomingCall call))
            | (.error e, w) => (.error e, w)
          else (.error .attributeError, w)
      | none => (.error .attributeError, w)
  | none => (.ok .none, { w with log := w.log ++ [.engine (.callHangup callId 603)] })

/-- The shape shared by the call-scoped dispatchers: the call at `call_id` is given `n` and its
answer returned; with no call there, `dflt` is returned and nothing runs. -/
def callScoped (w : World) (callId : Int) (n : Notice) (dflt : PyVal) : Outcome PyVal :=
  match w.reg.lookupCall callId with
  | some call => invoke reply w .call call n
  | none => (.ok dflt, w)

/-- `_cb_on_call_state(call_id)` -/
def cbOnCallState (w : World) (callId : Int) : Outcome PyVal :=
  returnsNone (callScoped reply w callId .onState .none)

/-- `_cb_on_call_media_state(call_id)` -/
def cbOnCallMediaState (w : World) (callId : Int) : Outcome PyVal :=
  returnsNone (callScoped reply w callId .onMediaState .none)

/-- `_cb_on_dtmf_digit(call_id, digits)` -/
def cbOnDtmfDigit (w : World) (callId : Int) (digits : String) : Outcome PyVal :=
  returnsNone (callScoped reply w callId (.onDtmfDigit digits) .none)

/-- `_cb_on_call_transfer_request(call_id, dst, code)`: with no call, `603`. -/
def cbOnCallTransferRequest (w : World) (callId : Int) (dst : String) (code : Int) :
    Outcome PyVal :=
  callScoped reply w callId (.onTransferRequest dst code) (.int 603)

/-- `_cb_on_call_transfer_status(call_id, code, text, final, cont)`: with no call, `cont`. -/
def cbOnCallTransferStatus (w : World) (callId code : Int) (text : String) (final cont : Bool) :
    Outcome PyVal :=
  callScoped reply w callId (.onTransferStatus code text final cont) (.bool cont)

/-- `_cb_on_call_replace_request(call_id, rdata, code, reason)`: with no call,
`(code, reason)`. -/
def cbOnCallReplaceRequest (w : World) (callId code : Int) (reason : String) : Outcome PyVal :=
  callScoped reply w callId (.onReplaceRequest code reason) (.pair (.int code) (.str reason))

/-- `_cb_on_call_replaced(old_call_id, new_call_id)`: both calls must be mapped. -/
def cbOnCallReplaced (w : World) (oldCallId newCallId : Int) : Outcome PyVal :=
  match w.reg.lookupCall oldCallId, w.reg.lookupCall newCallId with
  | some oldCall, some newCall => returnsNone (invoke reply w .call oldCall (.onReplaced newCall))
  | _, _ => (.ok .none, w)

/-- `_cb_on_buddy_state(buddy_id)` -/
def cbOnBuddyState (w : World) (buddyId : Int) : Outcome PyVal :=
  match w.reg.lookup E .buddy buddyId with
  | some buddy => returnsNone (invoke reply w .buddy buddy .buddyOnState)
  | none => (.ok .none, w)

/-- The routing shared by `_cb_on_pager`, `_cb_on_pager_status` and `_cb_on_typing`. The call
is looked up only when `call_id == -1`; otherwise the account is looked up, then the buddy by
`uri` (whose parse may raise), and the buddy's handler runs, else the account's (an attribute
read on `None` when there is no account). -/
def imRoute (w : World) (callId : Int) (uri : String) (accId : Int)
    (toCall toBuddy toAccount : Notice) : Outcome PyVal :=
  let call := if callId = -1 then w.reg.lookupCall callId else none
  match call with
  | some call => returnsNone (invoke reply w .call call toCall)
  | none =>
      let acc := w.reg.lookupAccount accId
      match w.reg.lookupBuddy E (-1) (some uri) with
      | .error e => (.error e, w)
      | .ok (some buddy) => returnsNone (invoke reply w .buddy buddy toBuddy)
      | .ok none =>
          match acc with
          | some acc => returnsNone (invoke reply w .account acc toAccount)
          | none => (.error .attributeError, w)

/-- `_cb_on_pager(call_id, from_uri, to_uri, contact, mime_type, body, acc_id)` -/
def cbOnPager (w : World) (callId : Int) (fromUri _toUri contact mimeType body : String)
    (accId : Int) : Outcome PyVal :=
  imRoute reply E w callId fromUri accId (.callOnPager mimeType body)
    (.buddyOnPager mimeType body) (.accountOnPager fromUri contact mimeType body)

/-- `_cb_on_pager_status(call_id, to_uri, body, user_data, code, reason, acc_id)`: routed by
`to_uri`. -/
def cbOnPagerStatus (w : World) (callId : Int) (toUri body : String) (userData code : Int)
    (reason : String) (accId : Int) : Outcome PyVal :=
  imRoute reply E w callId toUri accId (.callOnPagerStatus body userData code reason)
    (.buddyOnPagerStatus body userData code reason)
    (.accountOnPagerStatus toUri body userData code reason)

/-- `_cb_on_typing(call_id, from_uri, to_uri, contact, is_typing, acc_id)` -/
def cbOnTyping (w : World) (callId : Int) (fromUri _toUri contact : String) (isTyping : Bool)
    (accId : Int) : Outcome PyVal :=
  imRoute reply E w callId fromUri accId (.callOnTyping isTyping) (.buddyOnTyping isTyping)
    (.accountOnTyping fromUri contact isTyping)

/-- The module-level `_cb_on_*` functions: each forwards to the method of the same name on
`_lib`, and raises `AttributeError` while `_lib` is `None`. -/
def deliver (w : World) (n : Notification) : Outcome PyVal :=
  match w.lib with
  | none => (.error .attributeError, w)
  | some _ =>
      match n with
      | .onCallState c => cbOnCallState reply w c
      | .onIncomingCall a c => cbOnIncomingCall reply E w a c
      | .onCallMediaState c => cbOnCallMediaState reply w c
      | .onDtmfDigit c d => cbOnDtmfDigit reply w c d
      | .onCallTransferRequest c dst code => cbOnCallTransferRequest reply w c dst code
      | .onCallTransferStatus c code reason final cont =>
          cbOnCallTransferStatus reply w c code reason final cont
      | .onCallReplaceRequest c code reason => cbOnCallReplaceRequest reply w c code reason
      | .onCallReplaced old new => cbOnCallReplaced reply w old new
      | .onRegState a => cbOnRegState reply w a
      | .onBuddyState b => cbOnBuddyState reply E w b
      | .onPager c fromUri toUri contact mimeType body a =>
          cbOnPager reply E w c fromUri toUri contact mimeType body a
      | .onPagerStatus c toUri body userData status reason a =>
          cbOnPagerStatus reply E w c toUri body userData status reason a
      | .onTyping c fromUri toUri contact isTyping a =>
          cbOnTyping reply E w c fromUri toUri contact isTyping a

section Contract

variable {reply E}

theorem callScoped_of_some {w : World} {c : Int} {o : Obj} {h : Handler} (n : Notice)
    (d : PyVal) (hc : w.reg.lookupCall c = some o) (hh : w.handler .call o = some h) :
    callScoped reply w c n d = runHandler reply w h n := by
  simp [callScoped, invoke, hc, hh]

theorem callScoped_of_none {w : World} {c : Int} (n : Notice) (d : PyVal)
    (hc : w.reg.lookupCall c = none) : callScoped reply w c n d = (.ok d, w) := by
  simp [callScoped, hc]

/-- A scoped notification whose handles are mapped runs the installed handler's method once,
and the dispatcher returns its answer where the engine reads one. -/
theorem deliver_addressed {w : World} {n : Notification} {k : Kind} {o : Obj} {m : Notice}
    {h : Handler} (hl : w.lib.isSome) (ha : n.addressee E w.reg = some (k, o, m))
    (hh : w.handler k o = some h) :
    deliver reply E w n =
      (if n.expectsReply then reply h m else (reply h m).map fun _ => .none,
        { w with log := w.log ++ [.invoke h m] }) := by
  obtain ⟨l, hl⟩ := Option.isSome_iff_exists.mp hl
  cases n <;> simp only [Notification.addressee, Option.map_eq_some'] at ha
  case onCallReplaced old new =>
    split at ha <;> cases ha
    simp_all [deliver, cbOnCallReplaced, invoke, returnsNone, runHandler,
      Notification.expectsReply]
  all_goals first
    | (obtain ⟨o, ho, ⟨⟩⟩ := ha
       simp [deliver, hl, cbOnCallState, cbOnCallMediaState, cbOnDtmfDigit,
         cbOnCallTransferRequest, cbOnCallTransferStatus, cbOnCallReplaceRequest, cbOnRegState,
         cbOnBuddyState, callScoped_of_some, invoke, ho, hh, returnsNone, runHandler,
         Notification.expectsReply])
    | cases ha

/-- A scoped notification with nothing mapped runs no handler, changes nothing, and returns
the dispatcher's default. -/
theorem deliver_unaddressed {w : World} {n : Notification} (hs : n.targeted)
    (hl : w.lib.isSome) (ha : n.addressee E w.reg = none) :
    deliver reply E w n = (.ok n.fallback, w) := by
  obtain ⟨l, hl⟩ := Option.isSome_iff_exists.mp hl
  cases n <;> simp only [Notification.targeted, Bool.false_eq_true] at hs <;>
    simp only [Notification.addressee, Option.map_eq_none'] at ha
  case onCallReplaced old new =>
    simp only [deliver, hl, cbOnCallReplaced]
    split at ha <;> simp_all [Notification.fallback]
  all_goals simp [deliver, hl, cbOnCallState, cbOnCallMediaState, cbOnDtmfDigit,
    cbOnCallTransferRequest, cbOnCallTransferStatus, cbOnCallReplaceRequest, cbOnRegState,
    cbOnBuddyState, callScoped_of_none, ha, returnsNone, Notification.fallback, Except.map]

theorem deliver_incoming_mapped {w : World} {a c : Int} {acc call : Obj} {h : Handler}
    (hl : w.lib.isSome) (ha : w.reg.lookupAccount a = some acc)
    (hh : w.handler .account acc = some h) (hm : h.cls.hasOnIncomingCall = true)
    (hc : (Call.new E w c).1 = .ok call) :
    deliver reply E w (.onIncomingCall a c) =
      ((reply h (.onIncomingCall call)).map fun _ => .none,
        { (Call.new E w c).2 with
          log := (Call.new E w c).2.log ++ [.invoke h (.onIncomingCall call)] }) := by
  obtain ⟨l, hl⟩ := Option.isSome_iff_exists.mp hl
  rcases hn : Call.new E w c with ⟨r, w'⟩
  simp only [hn] at hc
  subst hc
  simp [deliver, hl, cbOnIncomingCall, ha, hh, hm, hn, returnsNone, runHandler]

theorem deliver_incoming_no_method {w : World} {a c : Int} {acc : Obj} {h : Handler}
    (hl : w.lib.isSome) (ha : w.reg.lookupAccount a = some acc)
    (hh : w.handler .account acc = some h) (hm : h.cls.hasOnIncomingCall = false) :
    deliver reply E w (.onIncomingCall a c) = (.error .attributeError, w) := by
  obtain ⟨l, hl⟩ := Option.isSome_iff_exists.mp hl
  simp [deliver, hl, cbOnIncomingCall, ha, hh, hm]

theorem deliver_incoming_unmapped {w : World} {a c : Int} (hl : w.lib.isSome)
    (ha : w.reg.lookupAccount a = none) :
    deliver reply E w (.onIncomingCall a c) =
      (.ok .none, { w with log := w.log ++ [.engine (.callHangup c 603)] }) := by
  obtain ⟨l, hl⟩ := Option.isSome_iff_exists.mp hl
  simp [deliver, hl, cbOnIncomingCall, ha]

theorem deliver_incoming_unknown_call {w : World} {a c : Int} {acc : Obj} {h : Handler}
    (hl : w.lib.isSome) (ha : w.reg.lookupAccount a = some acc)
    (hh : w.handler .account acc = some h) (hm : h.cls.hasOnIncomingCall = true)
    (hc : E.callGetInfo c = none) :
    deliver reply E w (.onIncomingCall a c) =
      (.error (.error ⟨"info", .wrapper ⟨w.fresh, c⟩, -1, "Invalid call"⟩), (Call.new E w c).2) := by
  obtain ⟨l, hl⟩ := Option.isSome_iff_exists.mp hl
  have hn : Call.new E w c = (.error (.error ⟨"info", .wrapper ⟨w.fresh, c⟩, -1, "Invalid call"⟩),
      (Call.new E w c).2) :=
    Prod.ext (by rw [Call.new_fst, hc]) rfl
  simp only [deliver, hl, cbOnIncomingCall, ha, hh, hm, if_true]
  rw [hn]

end Contract

/-- Away from the sentinel `-1`, the routing never looks at the call the notification names. -/
theorem imRoute_of_ne_sentinel {w : World} {callId accId : Int} {uri : String}
    {toCall toBuddy toAccount : Notice} (hc : callId ≠ -1) :
    imRoute reply E w callId uri accId toCall toBuddy toAccount =
      match w.reg.lookupBuddy E (-1) (some uri) with
      | .error e => (.error e, w)
      | .ok (some buddy) => returnsNone (invoke reply w .buddy buddy toBuddy)
      | .ok none =>
          match w.reg.lookupAccount accId with
          | some acc => returnsNone (invoke reply w .account acc toAccount)
          | none => (.error .attributeError, w) := by
  simp [imRoute, hc]

/-- The callback spine's contract. A scoped notification whose handles are mapped runs the
installed handler's method once with the notification's arguments, returning its answer where
the engine reads one; with nothing mapped, no handler runs, nothing changes, and the
dispatcher's default comes back. An incoming call for a mapped account whose handler has
`on_incoming_call` is, when the engine reports the call, wrapped, registered and handed to that
method; a handler without the method raises before anything is built; for an unmapped account
the call is hung up with 603. -/
theorem dispatch_contract :
    (∀ (w : World) (n : Notification) k o m h, w.lib.isSome →
      n.addressee E w.reg = some (k, o, m) → w.handler k o = some h →
      deliver reply E w n =
        (if n.expectsReply then reply h m else (reply h m).map fun _ => .none,
          { w with log := w.log ++ [.invoke h m] })) ∧
    (∀ (w : World) (n : Notification), n.targeted → w.lib.isSome →
      n.addressee E w.reg = none → deliver reply E w n = (.ok n.fallback, w)) ∧
    (∀ (w : World) a c acc h call, w.lib.isSome → w.reg.lookupAccount a = some acc →
      w.handler .account acc = some h → h.cls.hasOnIncomingCall = true →
      (Call.new E w c).1 = .ok call →
      deliver reply E w (.onIncomingCall a c) =
        ((reply h (.onIncomingCall call)).map fun _ => .none,
          { (Call.new E w c).2 with
            log := (Call.new E w c).2.log ++ [.invoke h (.onIncomingCall call)] })) ∧
    (∀ (w : World) a c acc h, w.lib.isSome → w.reg.lookupAccount a = some acc →
      w.handler .account acc = some h → h.cls.hasOnIncomingCall = false →
      deliver reply E w (.onIncomingCall a c) = (.error .attributeError, w)) ∧
    (∀ (w : World) a c, w.lib.isSome → w.reg.lookupAccount a = none →
      deliver reply E w (.onIncomingCall a c) =
        (.ok .none, { w with log := w.log ++ [.engine (.callHangup c 603)] })) :=
  ⟨fun _ _ _ _ _ _ hl ha hh => deliver_addressed hl ha hh,
    fun _ _ hs hl ha => deliver_unaddressed hs hl ha,
    fun _ _ _ _ _ _ hl ha hh hm hc => deliver_incoming_mapped hl ha hh hm hc,
    fun _ _ _ _ _ hl ha hh hm => deliver_incoming_no_method hl ha hh hm,
    fun _ _ _ hl ha => deliver_incoming_unmapped hl ha⟩

/-- A transfer request for a mapped call gets the handler's answer. -/
theorem dispatch_contract_transfer :
    let w : World := ⟨Registry.empty.associateCall 1 ⟨0, 1⟩,
      fun _ => some ⟨1, .callCallback, some ⟨0, 1⟩⟩, some 0, 2, []⟩
    w.lib.isSome ∧
      (Notification.onCallTransferRequest 1 "sip:carol@example.com" 202).addressee
        Engine.blank w.reg = some (.call, ⟨0, 1⟩, .onTransferRequest "sip:carol@example.com" 202) ∧
      w.handler .call ⟨0, 1⟩ = some ⟨1, .callCallback, some ⟨0, 1⟩⟩ ∧
      deliver (fun _ _ => .ok (.int 202)) Engine.blank w
          (.onCallTransferRequest 1 "sip:carol@example.com" 202) =
        (.ok (.int 202), { w with log := [.invoke ⟨1, .callCallback, some ⟨0, 1⟩⟩
          (.onTransferRequest "sip:carol@example.com" 202)] }) :=
  ⟨rfl, rfl, rfl, (dispatch_contract (fun _ _ => .ok (.int 202)) Engine.blank).1 _ _ _ _ _ _
    rfl rfl rfl⟩

/-- The dispatchers do not always hand back what the handler or the engine gave: a transfer
request for a call the registry does not hold is answered 603, not the code the engine
supplied, and a state notification returns `None` whatever the call's handler returned. -/
theorem declined_transfer_and_dropped_answer :
    (deliver (fun _ _ => .ok .none) Engine.blank ⟨Registry.empty, fun _ => none, some 0, 0, []⟩
        (.onCallTransferRequest 1 "sip:carol@example.com" 202)).1 = .ok (.int 603) ∧
      (Notification.onCallTransferRequest 1 "sip:carol@example.com" 202).engineDefault =
        .int 202 ∧
      (deliver (fun _ _ => .ok (.int 5)) Engine.blank
        ⟨Registry.empty.associateCall 1 ⟨0, 1⟩, fun _ => some ⟨1, .callCallback, some ⟨0, 1⟩⟩,
          some 0, 2, []⟩ (.onCallState 1)).1 = .ok .none :=
  ⟨rfl, rfl, rfl⟩

/-- A message in the context of a call mapped at its handle 5 reaches the account's handler,
not the call's; with no account mapped either, the dispatcher raises. -/
theorem pager_in_call_reaches_account :
    let w : World := ⟨(Registry.empty.associateCall 5 ⟨0, 5⟩).associateAccount 0 ⟨1, 0⟩,
      fun o => if o = ⟨0, 5⟩ then some ⟨2, .callCallback, some ⟨0, 5⟩⟩
        else if o = ⟨1, 0⟩ then some ⟨3, .app 0 true, some ⟨1, 0⟩⟩ else none, some 0, 4, []⟩
    (deliver (fun _ _ => .ok .none) Engine.blank w
        (.onPager 5 "sip:bob@example.com" "sip:alice@example.com" "" "text/plain" "hi" 0)).2.log =
      [.invoke ⟨3, .app 0 true, some ⟨1, 0⟩⟩
        (.accountOnPager "sip:bob@example.com" "" "text/plain" "hi")] ∧
    (deliver (fun _ _ => .ok .none) Engine.blank w
        (.onPager 5 "sip:bob@example.com" "sip:alice@example.com" "" "text/plain" "hi" 7)).1 =
      .error .attributeError := by
  have hc : (5 : Int) ≠ -1 := by decide
  simp only [deliver, cbOnPager, imRoute_of_ne_sentinel _ _ hc]
  exact ⟨rfl, rfl⟩

end Pjsua
