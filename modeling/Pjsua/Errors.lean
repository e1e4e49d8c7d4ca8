import Pjsua.Dispatch

/-!
How the wrapper's operations report engine failures. A request method passes the engine's
status to `Lib._err_check`, which raises `Error` for any non-zero status; a creating method
does the same before using the handle the engine returned; a checked accessor raises for a
`None` answer. Each method below is one of those three bodies at its own operation name.
`Lib.player_get_slot` and `Lib.recorder_get_slot` call `_err_check` with `-1` whatever the
engine answered, and `Buddy.info` checks nothing.
-/

namespace Pjsua

/-- The body of a request method: `err = _pjsua.<request>(...)`, then
`self._lib._err_check(op_name, self, err)`. -/
def request (opName : String) (self : Origin) (err : Int) : Except PyExc Unit :=
  errCheck opName self err ""

/-- The body of a creating method: `err, id = _pjsua.<request>(...)`, the check, then the
handle the engine returned. -/
def create (opName : String) (self : Origin) (answer : Int × Int) : Except PyExc Int := do
  errCheck opName self answer.1 ""
  pure answer.2

/-- The body of a checked accessor: `x = _pjsua.<query>(...)`, `if not x:
self._lib._err_check(op_name, self, -1, msg)`, then `x` is read (on `None`, an attribute
read that the check never lets run). -/
def query {α : Type} (opName msg : String) (self : Origin) (x : Option α) : Except PyExc α :=
  match x with
  | some v => .ok v
  | none => do
      errCheck opName self (-1) msg
      throw .attributeError

theorem request_eq_ok_iff (opName : String) (self : Origin) (err : Int) :
    request opName self err = .ok () ↔ err = 0 :=
  errCheck_eq_ok_iff opName self err ""

theorem request_of_ne {err : Int} (opName : String) (self : Origin) (h : err ≠ 0) :
    request opName self err = .error (.error ⟨opName, self, err, ""⟩) := by
  simp [request, errCheck, h]

theorem create_of_eq {answer : Int × Int} (opName : String) (self : Origin)
    (h : answer.1 = 0) : create opName self answer = .ok answer.2 := by
  simp [create, errCheck, h]

theorem create_of_ne {answer : Int × Int} (opName : String) (self : Origin)
    (h : answer.1 ≠ 0) : create opName self answer = .error (.error ⟨opName, self, answer.1, ""⟩) := by
  simp [create, errCheck, h]

theorem query_none {α : Type} (opName msg : String) (self : Origin) :
    query opName msg self (none : Option α) = .error (.error ⟨opName, self, -1, msg⟩) := rfl

theorem query_some {α : Type} (opName msg : String) (self : Origin) (v : α) :
    query opName msg self (some v) = .ok v := rfl

/-! Transport -/

/-- `TransportConfig`. `_cvt_to_pjsua()` copies the three members onto the engine's default
record, whose other members no wrapper code reads. -/
structure TransportConfig where
  port : Int
  boundAddr : String
  publicAddr : String
  deriving DecidableEq, Repr

/-- The `description` member of `TransportInfo`, the one the modelled code reads. -/
structure PjsuaTransportInfo where
  info : String
  deriving DecidableEq, Repr

/-- `Transport.info()` -/
def Transport.info (self : Obj) (ti : Option PjsuaTransportInfo) : Except PyExc PjsuaTransportInfo :=
  query "info()" "Invalid transport" (.wrapper self) ti

/-- `Transport.enable()` -/
def Transport.enable (self : Obj) (err : Int) := request "enable()" (.wrapper self) err

/-- `Transport.disable()` -/
def Transport.disable (self : Obj) (err : Int) := request "disable()" (.wrapper self) err

/-- `Transport.close(force)` -/
def Transport.close (self : Obj) (err : Int) := request "close()" (.wrapper self) err

/-! Account -/

/-- `Account.set_default()` -/
def Account.setDefault (self : Obj) (err : Int) := request "set_default()" (.wrapper self) err

/-- `Account.delete()` -/
def Account.delete (self : Obj) (err : Int) := request "delete()" (.wrapper self) err

/-- `Account.set_basic_status(is_online)` -/
def Account.setBasicStatus (self : Obj) (err : Int) :=
  request "set_basic_status()" (.wrapper self) err

/-- `Account.set_presence_status(...)` -/
def Account.setPresenceStatus (self : Obj) (err : Int) :=
  request "set_presence_status()" (.wrapper self) err

/-- `Account.set_registration(renew)` -/
def Account.setRegistration (self : Obj) (err : Int) :=
  request "set_registration()" (.wrapper self) err

/-- `Account.has_registration()`, with its own lower-case message. -/
def Account.hasRegistration (self : Obj) (accInfo : Option Bool) : Except PyExc Bool :=
  query "has_registration()" "invalid account" (.wrapper self) accInfo

/-- `Account.set_transport(transport)` -/
def Account.setTransport (self : Obj) (err : Int) := request "set_transport()" (.wrapper self) err

/-- `Account.make_call(dst_uri)`: the check, then `Call(self._lib, cid)`. -/
def Account.makeCall (E : Engine) (w : World) (self : Obj) (answer : Int × Int) :
    Except PyExc Obj × World :=
  match create "make_call()" (.wrapper self) answer with
  | .ok cid => Call.new E w cid
  | .error e => (.error e, w)

/-- `Account.add_buddy(uri)`: the check, then `Buddy(self._lib, buddy_id, self)`. -/
def Account.addBuddy (E : Engine) (w : World) (self : Obj) (answer : Int × Int) :
    Except PyExc Obj × World :=
  match create "add_buddy()" (.wrapper self) answer with
  | .ok buddyId => Buddy.new E w buddyId
  | .error e => (.error e, w)

/-! Call -/

/-- `Call.answer(code, reason, hdr_list)` -/
def Call.answer (self : Obj) (err : Int) := request "answer()" (.wrapper self) err

/-- `Call.hangup(code, reason, hdr_list)` -/
def Call.hangup (self : Obj) (err : Int) := request "hangup()" (.wrapper self) err

/-- `Call.hold(hdr_list)` -/
def Call.hold (self : Obj) (err : Int) := request "hold()" (.wrapper self) err

/-- `Call.unhold(hdr_list)` -/
def Call.unhold (self : Obj) (err : Int) := request "unhold()" (.wrapper self) err

/-- `Call.reinvite(hdr_list)` -/
def Call.reinvite (self : Obj) (err : Int) := request "reinvite()" (.wrapper self) err

/-- `Call.update(hdr_list, options)` -/
def Call.update (self : Obj) (err : Int) := request "update()" (.wrapper self) err

/-- `Call.transfer(dest_uri, hdr_list)` -/
def Call.transfer (self : Obj) (err : Int) := request "transfer()" (.wrapper self) err

/-- `Call.transfer_to_call(call, hdr_list, options)` -/
def Call.transferToCall (self : Obj) (err : Int) := request "transfer_to_call()" (.wrapper self) err

/-- `Call.dial_dtmf(digits)` -/
def Call.dialDtmf (self : Obj) (err : Int) := request "dial_dtmf()" (.wrapper self) err

/-- `Call.send_request(method, ...)` -/
def Call.sendRequest (self : Obj) (err : Int) := request "send_request()" (.wrapper self) err

/-! Buddy -/

/-- `Buddy.subscribe()` -/
def Buddy.subscribe (self : Obj) (err : Int) := request "subscribe()" (.wrapper self) err

/-- `Buddy.unsubscribe()` -/
def Buddy.unsubscribe (self : Obj) (err : Int) := request "unsubscribe()" (.wrapper self) err

/-- `Buddy.delete()` -/
def Buddy.delete (self : Obj) (err : Int) := request "delete()" (.wrapper self) err

/-- `Buddy.send_pager(text, ...)`: the destination is `self.info().uri`, read unchecked. -/
def Buddy.sendPager (E : Engine) (self : Obj) (err : Int) : String × Except PyExc Unit :=
  ((Buddy.info E self).uri, request "send_pager()" (.wrapper self) err)

/-- `Buddy.send_typing_ind(is_typing, hdr_list)`: the destination is `self.info().uri`. -/
def Buddy.sendTypingInd (E : Engine) (self : Obj) (err : Int) : String × Except PyExc Unit :=
  ((Buddy.info E self).uri, request "send_typing_ind()" (.wrapper self) err)

/-! Lib -/

/-- `Lib.init(ua_cfg, log_cfg, media_cfg)` -/
def Lib.init (self : Nat) (err : Int) := request "init()" (.lib self) err

/-- `Lib.start(with_thread)` -/
def Lib.start (self : Nat) (err : Int) := request "start()" (.lib self) err

/-- `Lib.create_transport(type, cfg)`: without a configuration, `TransportConfig(type)`, whose
port is the transport type; `_pjsua.transport_create(type, cfg._cvt_to_pjsua())` and the check,
then `Transport(self, tp_id)` and its `info()`. -/
def Lib.createTransport (self : Nat) (type : Int) (cfg : Option TransportConfig)
    (transportCreate : Int → TransportConfig → Int × Int) (ti : Option PjsuaTransportInfo) :
    Except PyExc Int := do
  let cfg := cfg.getD ⟨type, "", ""⟩
  let tpId ← create "create_transport()" (.lib self) (transportCreate type cfg)
  let _ ← Transport.info ⟨self, tpId⟩ ti
  pure tpId

/-- `Lib.create_account(acc_config, set_default)`: the check, then `Account(self, acc_id)`. -/
def Lib.createAccount (E : Engine) (w : World) (self : Nat) (answer : Int × Int) :
    Except PyExc Obj × World :=
  match create "create_account()" (.lib self) answer with
  | .ok accId => Account.new E w accId
  | .error e => (.error e, w)

/-- `Lib.create_account_for_transport(transport, set_default)` -/
def Lib.createAccountForTransport (E : Engine) (w : World) (self : Nat) (answer : Int × Int) :
    Except PyExc Obj × World :=
  match create "create_account_for_transport()" (.lib self) answer with
  | .ok accId => Account.new E w accId
  | .error e => (.error e, w)

/-- A wrapper whose `info()` fails stays associated at its handle, in place of the object
mapped there before, and no caller undoes it: `make_call`, `create_account`,
`create_account_for_transport` and an incoming call leave what the constructor left. -/
theorem failed_wrapper_stays_associated (reply : Handler → Notice → Except PyExc PyVal)
    (E : Engine) :
    (∀ (w : World) h, E.callGetInfo h = none →
      (Call.new E w h).1 = .error (.error ⟨"info", .wrapper ⟨w.fresh, h⟩, -1, "Invalid call"⟩) ∧
        (Call.new E w h).2.reg = w.reg.associateCall h ⟨w.fresh, h⟩) ∧
    (∀ (w : World) h, E.accGetInfo h = none →
      (Account.new E w h).1 =
          .error (.error ⟨"info()", .wrapper ⟨w.fresh, h⟩, -1, "Invalid account"⟩) ∧
        (Account.new E w h).2.reg = w.reg.associateAccount h ⟨w.fresh, h⟩) ∧
    (∀ (w : World) self h, Account.makeCall E w self (0, h) = Call.new E w h) ∧
    (∀ (w : World) self h, Lib.createAccount E w self (0, h) = Account.new E w h ∧
      Lib.createAccountForTransport E w self (0, h) = Account.new E w h) ∧
    (∀ (w : World) a h acc hd, w.lib.isSome → w.reg.lookupAccount a = some acc →
      w.handler .account acc = some hd → hd.cls.hasOnIncomingCall = true →
      E.callGetInfo h = none →
      deliver reply E w (.onIncomingCall a h) =
        (.error (.error ⟨"info", .wrapper ⟨w.fresh, h⟩, -1, "Invalid call"⟩),
          (Call.new E w h).2)) :=
  ⟨fun w h hc => ⟨by rw [Call.new_fst, hc], Call.new_reg E w h⟩,
    fun w h ha => ⟨by rw [Account.new_fst, ha], Account.new_reg E w h⟩,
    fun _ _ _ => rfl, fun _ _ _ => ⟨rfl, rfl⟩,
    fun _ _ _ _ _ hl ha hh hm hc => deliver_incoming_unknown_call hl ha hh hm hc⟩

/-- A call the engine does not report, built over the call mapped at handle 1. -/
theorem failed_call_over_mapped_call :
    Engine.blank.callGetInfo 1 = none ∧
      ((Call.new Engine.blank ⟨Registry.empty.associateCall 1 ⟨0, 1⟩, fun _ => none, some 0, 2, []⟩
          1).1 = .error (.error ⟨"info", .wrapper ⟨2, 1⟩, -1, "Invalid call"⟩) ∧
        (Call.new Engine.blank ⟨Registry.empty.associateCall 1 ⟨0, 1⟩, fun _ => none, some 0, 2, []⟩
          1).2.reg = (Registry.empty.associateCall 1 ⟨0, 1⟩).associateCall 1 ⟨2, 1⟩) :=
  ⟨rfl, (failed_wrapper_stays_associated (fun _ _ => .ok .none) Engine.blank).1 _ 1 rfl⟩

/-- `Call(lib, 1)` fails on an engine that does not report call 1, and the call mapped at 1
before is no longer found: the half-built wrapper is. -/
theorem failed_call_replaces_mapped_call :
    (Call.new Engine.blank ⟨Registry.empty.associateCall 1 ⟨0, 1⟩, fun _ => none, some 0, 2, []⟩
        1).1 = .error (.error ⟨"info", .wrapper ⟨2, 1⟩, -1, "Invalid call"⟩) ∧
      (Call.new Engine.blank ⟨Registry.empty.associateCall 1 ⟨0, 1⟩, fun _ => none, some 0, 2, []⟩
        1).2.reg.lookupCall 1 = some ⟨2, 1⟩ :=
  ⟨rfl, by decide⟩

/-- `Lib.set_snd_dev(capture_dev, playback_dev)`, reported under another name. -/
def Lib.setSndDev (self : Nat) (err : Int) := request "set_current_sound_devices()" (.lib self) err

/-- `Lib.set_null_snd_dev()` -/
def Lib.setNullSndDev (self : Nat) (err : Int) := request "set_null_snd_dev()" (.lib self) err

/-- `Lib.conf_connect(src_slot, dst_slot)` -/
def Lib.confConnect (self : Nat) (err : Int) := request "conf_connect()" (.lib self) err

/-- `Lib.conf_disconnect(src_slot, dst_slot)` -/
def Lib.confDisconnect (self : Nat) (err : Int) := request "conf_disconnect()" (.lib self) err

/-- `Lib.set_codec_priority(name, priority)` -/
def Lib.setCodecPriority (self : Nat) (err : Int) := request "set_codec_priority()" (.lib self) err

/-- `Lib.create_player(filename, loop)` -/
def Lib.createPlayer (self : Nat) (answer : Int × Int) := create "create_player()" (.lib self) answer

/-- `Lib.player_get_slot(player_id)`: `_err_check` is called with `-1` whatever the engine
answered. -/
def Lib.playerGetSlot (self : Nat) (slot : Option Int) : Except PyExc (Option Int) := do
  errCheck "player_get_slot()" (.lib self) (-1) "Invalid player id"
  pure slot

/-- `Lib.player_set_pos(player_id, pos)` -/
def Lib.playerSetPos (self : Nat) (err : Int) := request "player_set_pos()" (.lib self) err

/-- `Lib.player_destroy(player_id)` -/
def Lib.playerDestroy (self : Nat) (err : Int) := request "player_destroy()" (.lib self) err

/-- `Lib.create_recorder(filename)` -/
def Lib.createRecorder (self : Nat) (answer : Int × Int) :=
  create "create_recorder()" (.lib self) answer

/-- `Lib.recorder_get_slot(rec_id)`: `_err_check` is called with `-1` whatever the engine
answered. -/
def Lib.recorderGetSlot (self : Nat) (slot : Option Int) : Except PyExc (Option Int) := do
  errCheck "recorder_get_slot()" (.lib self) (-1) "Invalid recorder id"
  pure slot

/-- `Lib.recorder_destroy(rec_id)` -/
def Lib.recorderDestroy (self : Nat) (err : Int) := request "recorder_destroy()" (.lib self) err

theorem Lib.playerGetSlot_eq (self : Nat) (slot : Option Int) :
    Lib.playerGetSlot self slot =
      .error (.error ⟨"player_get_slot()", .lib self, -1, "Invalid player id"⟩) := rfl

theorem Lib.recorderGetSlot_eq (self : Nat) (slot : Option Int) :
    Lib.recorderGetSlot self slot =
      .error (.error ⟨"recorder_get_slot()", .lib self, -1, "Invalid recorder id"⟩) := rfl

/-- The slot getters raise for a slot the engine returned, and `Buddy.info()` returns the
class defaults without an `Error` for a buddy the engine does not report. -/
theorem slot_getters_raise_buddy_info_silent :
    Lib.playerGetSlot 0 (some 3) =
        .error (.error ⟨"player_get_slot()", .lib 0, -1, "Invalid player id"⟩) ∧
      Lib.recorderGetSlot 0 (some 4) =
        .error (.error ⟨"recorder_get_slot()", .lib 0, -1, "Invalid recorder id"⟩) ∧
      Engine.blank.buddyGetInfo 1 = none ∧ Buddy.info Engine.blank ⟨0, 1⟩ = ⟨""⟩ :=
  ⟨Lib.playerGetSlot_eq 0 (some 3), Lib.recorderGetSlot_eq 0 (some 4), rfl, rfl⟩

end Pjsua
