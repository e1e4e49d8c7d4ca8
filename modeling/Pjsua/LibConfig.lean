import Pjsua.Config

/-!
The configurations `Lib.init` takes: `UAConfig`, `LogConfig` and `MediaConfig`, and their
conversions to and from the engine's records. `_cvt_to_pjsua` starts from the engine's default
record and assigns the members it converts; `_cvt_from_pjsua` assigns every member it converts
on the object it runs on. `MediaConfig` keeps its TURN credential as an `AuthCred` and builds it
back from four members of the record.
-/

namespace Pjsua

/-- The engine's `pjsua_config`, reduced to the members the wrapper converts. -/
structure PjsuaConfig where
  maxCalls : Int
  threadCnt : Int
  nameserver : List String
  stunDomain : String
  stunHost : String
  userAgent : String
  deriving DecidableEq, Repr

/-- `UAConfig`. `thread_cnt` is not a class attribute: an instance has it once
`_cvt_from_pjsua` has run on it. `nameserver` is `none` while the instance reads the class
attribute, the one list that every such instance shares. -/
structure UAConfig where
  maxCalls : Int
  threadCnt : Option Int
  nameserver : Option (List String)
  stunDomain : String
  stunHost : String
  userAgent : String
  deriving DecidableEq, Repr

namespace UAConfig

/-- `UAConfig()`: the class attributes; the class has no `__init__`. -/
def new : UAConfig := ⟨4, none, none, "", "", "pjsip python"⟩

/-- `_cvt_from_pjsua(cfg)` -/
def cvtFromPjsua (self : UAConfig) (cfg : PjsuaConfig) : UAConfig :=
  { self with
    maxCalls := cfg.maxCalls
    threadCnt := some cfg.threadCnt
    nameserver := some cfg.nameserver
    stunDomain := cfg.stunDomain
    stunHost := cfg.stunHost
    userAgent := cfg.userAgent }

/-- `_cvt_to_pjsua()`: `_pjsua.config_default()` with the members assigned and `thread_cnt`
set to `0`; `classNameserver` is the class attribute `nameserver`. -/
def cvtToPjsua (self : UAConfig) (classNameserver : List String) (default : PjsuaConfig) :
    PjsuaConfig :=
  { default with
    maxCalls := self.maxCalls
    threadCnt := 0
    nameserver := self.nameserver.getD classNameserver
    stunDomain := self.stunDomain
    stunHost := self.stunHost
    userAgent := self.userAgent }

/-- `cfg.nameserver.append(ns)` in application code: an instance that reads the class
attribute appends to the list every such instance shares. -/
def appendNameserver (self : UAConfig) (classNameserver : List String) (ns : String) :
    UAConfig × List String :=
  match self.nameserver with
  | none => (self, classNameserver ++ [ns])
  | some l => ({ self with nameserver := some (l ++ [ns]) }, classNameserver)

/-- The class attribute `nameserver` after the application has appended a name server to the
`nameserver` of each instance of a history, from the class definition's `[]`. -/
def classNameserver (appends : List (UAConfig × String)) : List String :=
  appends.foldl (fun cls a => (a.1.appendNameserver cls a.2).2) []

end UAConfig

/-- A fresh `UAConfig` given the record of `c` has every documented member of `c`, the name
servers as its own list; its undocumented `thread_cnt` is `0`. -/
theorem ua_config_round_trip (c : UAConfig) (classNameserver : List String)
    (default : PjsuaConfig) :
    UAConfig.new.cvtFromPjsua (c.cvtToPjsua classNameserver default) =
      { c with threadCnt := some 0, nameserver := some (c.nameserver.getD classNameserver) } :=
  rfl

/-- The engine's `pjsua_logging_config`, reduced to the members the wrapper converts. `cb` is
the Python callable stored in it, by identity. -/
structure PjsuaLoggingConfig where
  msgLogging : Bool
  level : Int
  consoleLevel : Int
  decor : Int
  logFilename : String
  cb : Option Nat
  deriving DecidableEq, Repr

/-- `LogConfig`; `callback` is a Python callable, by identity, or `None`. -/
structure LogConfig where
  msgLogging : Bool
  level : Int
  consoleLevel : Int
  decor : Int
  filename : String
  callback : Option Nat
  deriving DecidableEq, Repr

namespace LogConfig

/-- The class attributes. -/
def classDefaults : LogConfig := ⟨true, 5, 5, 0, "", none⟩

/-- `_cvt_from_pjsua(cfg)` -/
def cvtFromPjsua (self : LogConfig) (cfg : PjsuaLoggingConfig) : LogConfig :=
  { self with
    msgLogging := cfg.msgLogging
    level := cfg.level
    consoleLevel := cfg.consoleLevel
    decor := cfg.decor
    filename := cfg.logFilename
    callback := cfg.cb }

/-- `LogConfig(level, filename, callback, console_level)`: the engine's defaults, then each
argument that differs from its own default (`-1`, `""`, `None`, `-1`). -/
def new (default : PjsuaLoggingConfig) (level : Int) (filename : String)
    (callback : Option Nat) (consoleLevel : Int) : LogConfig :=
  let self := classDefaults.cvtFromPjsua default
  let self := if level ≠ -1 then { self with level := level } else self
  let self := if filename ≠ "" then { self with filename := filename } else self
  let self := if callback ≠ none then { self with callback := callback } else self
  if consoleLevel ≠ -1 then { self with consoleLevel := consoleLevel } else self

/-- `_cvt_to_pjsua()`: `_pjsua.logging_config_default()` with the members assigned. -/
def cvtToPjsua (self : LogConfig) (default : PjsuaLoggingConfig) : PjsuaLoggingConfig :=
  { default with
    msgLogging := self.msgLogging
    level := self.level
    consoleLevel := self.consoleLevel
    decor := self.decor
    logFilename := self.filename
    cb := self.callback }

end LogConfig

/-- A fresh `LogConfig()` given the record of `c` has every member of `c`. -/
theorem log_config_round_trip (c : LogConfig) (default : PjsuaLoggingConfig) :
    (LogConfig.new default (-1) "" none (-1)).cvtFromPjsua (c.cvtToPjsua default) = c := rfl

/-- The engine's `pjsua_media_config`, reduced to the members the wrapper converts; the TURN
credential is four flat members. -/
structure PjsuaMediaConfig where
  clockRate : Int
  sndClockRate : Int
  sndAutoCloseTime : Int
  channelCount : Int
  audioFramePtime : Int
  maxMediaPorts : Int
  quality : Int
  ptime : Int
  noVad : Bool
  ilbcMode : Int
  txDropPct : Int
  rxDropPct : Int
  ecOptions : Int
  ecTailLen : Int
  jbMin : Int
  jbMax : Int
  enableIce : Bool
  enableTurn : Bool
  turnServer : String
  turnConnType : Int
  turnRealm : String
  turnUsername : String
  turnPasswd : String
  turnPasswdType : Int
  deriving DecidableEq

/-- `MediaConfig` -/
structure MediaConfig where
  clockRate : Int
  sndClockRate : Int
  sndAutoCloseTime : Int
  channelCount : Int
  audioFramePtime : Int
  maxMediaPorts : Int
  quality : Int
  ptime : Int
  noVad : Bool
  ilbcMode : Int
  txDropPct : Int
  rxDropPct : Int
  ecOptions : Int
  ecTailLen : Int
  jbMin : Int
  jbMax : Int
  enableIce : Bool
  enableTurn : Bool
  turnServer : String
  turnConnType : Int
  turnCred : Option AuthCred
  deriving DecidableEq

namespace MediaConfig

/-- The class attributes (`TURNConnType.UDP` is `17`). -/
def classDefaults : MediaConfig :=
  ⟨16000, 0, 5, 1, 20, 32, 6, 0, false, 30, 0, 0, 0, 256, -1, -1, true, false, "", 17, none⟩

/-- `_cvt_from_pjsua(cfg)`: a non-empty `turn_username` gives
`AuthCred(turn_realm, turn_username, turn_passwd, turn_passwd_type)`, whose fourth positional
parameter is `scheme`, so `passwd_type` keeps its default `0`. -/
def cvtFromPjsua (self : MediaConfig) (cfg : PjsuaMediaConfig) : MediaConfig :=
  { self with
    clockRate := cfg.clockRate
    sndClockRate := cfg.sndClockRate
    sndAutoCloseTime := cfg.sndAutoCloseTime
    channelCount := cfg.channelCount
    audioFramePtime := cfg.audioFramePtime
    maxMediaPorts := cfg.maxMediaPorts
    quality := cfg.quality
    ptime := cfg.ptime
    noVad := cfg.noVad
    ilbcMode := cfg.ilbcMode
    txDropPct := cfg.txDropPct
    rxDropPct := cfg.rxDropPct
    ecOptions := cfg.ecOptions
    ecTailLen := cfg.ecTailLen
    jbMin := cfg.jbMin
    jbMax := cfg.jbMax
    enableIce := cfg.enableIce
    enableTurn := cfg.enableTurn
    turnServer := cfg.turnServer
    turnConnType := cfg.turnConnType
    turnCred :=
      if cfg.turnUsername ≠ "" then
        some (AuthCred.new cfg.turnRealm cfg.turnUsername cfg.turnPasswd (.int cfg.turnPasswdType) 0)
      else none }

/-- `MediaConfig()`: the engine's defaults. -/
def new (default : PjsuaMediaConfig) : MediaConfig := classDefaults.cvtFromPjsua default

/-- `_cvt_to_pjsua()`: `_pjsua.media_config_default()` with the members assigned, and the
credential's realm, user name, password encoding and password when there is one. -/
def cvtToPjsua (self : MediaConfig) (default : PjsuaMediaConfig) : PjsuaMediaConfig :=
  let cfg : PjsuaMediaConfig :=
    { default with
      clockRate := self.clockRate
      sndClockRate := self.sndClockRate
      sndAutoCloseTime := self.sndAutoCloseTime
      channelCount := self.channelCount
      audioFramePtime := self.audioFramePtime
      maxMediaPorts := self.maxMediaPorts
      quality := self.quality
      ptime := self.ptime
      noVad := self.noVad
      ilbcMode := self.ilbcMode
      txDropPct := self.txDropPct
      rxDropPct := self.rxDropPct
      ecOptions := self.ecOptions
      ecTailLen := self.ecTailLen
      jbMin := self.jbMin
      jbMax := self.jbMax
      enableIce := self.enableIce
      enableTurn := self.enableTurn
      turnServer := self.turnServer
      turnConnType := self.turnConnType }
  match self.turnCred with
  | some cred =>
      { cfg with
        turnRealm := cred.realm
        turnUsername := cred.username
        turnPasswdType := cred.passwdType
        turnPasswd := cred.passwd }
  | none => cfg

theorem cvtFromPjsua_cvtToPjsua (self c : MediaConfig) (default : PjsuaMediaConfig) :
    self.cvtFromPjsua (c.cvtToPjsua default) =
      { c with turnCred := (self.cvtFromPjsua (c.cvtToPjsua default)).turnCred } := by
  obtain ⟨_, _, _, _, _, _, _, _, _, _, _, _, _, _, _, _, _, _, _, _, _ | _⟩ := c <;> rfl

theorem turnCred_of_some (self c : MediaConfig) (default : PjsuaMediaConfig) (cred : AuthCred)
    (hc : c.turnCred = some cred) :
    (self.cvtFromPjsua (c.cvtToPjsua default)).turnCred =
      if cred.username ≠ "" then
        some (AuthCred.new cred.realm cred.username cred.passwd (.int cred.passwdType) 0)
      else none := by
  simp only [cvtFromPjsua, cvtToPjsua, hc]

theorem turnCred_of_none (self c : MediaConfig) (default : PjsuaMediaConfig)
    (hc : c.turnCred = none) :
    (self.cvtFromPjsua (c.cvtToPjsua default)).turnCred =
      if default.turnUsername ≠ "" then
        some (AuthCred.new default.turnRealm default.turnUsername default.turnPasswd
          (.int default.turnPasswdType) 0)
      else none := by
  simp only [cvtFromPjsua, cvtToPjsua, hc]

end MediaConfig

/-- The record a `MediaConfig` converts back to after reading `cfg`: `cfg` itself, except that a
TURN credential comes back with password type `0`, and with no TURN user the four TURN members
are those of the engine's default record. -/
theorem media_record_round_trip (self : MediaConfig) (cfg default : PjsuaMediaConfig) :
    (self.cvtFromPjsua cfg).cvtToPjsua default =
      if cfg.turnUsername ≠ "" then { cfg with turnPasswdType := 0 }
      else
        { cfg with
          turnRealm := default.turnRealm
          turnUsername := default.turnUsername
          turnPasswd := default.turnPasswd
          turnPasswdType := default.turnPasswdType } := by
  unfold MediaConfig.cvtFromPjsua MediaConfig.cvtToPjsua
  split_ifs <;> rfl

/-- A fresh `MediaConfig()` given the record of `c` has every member of `c` but the TURN
credential; a credential with a user name comes back with its realm, user name and password,
its old `passwd_type` as `scheme`, and `passwd_type` `0`. With no credential, the engine's
default record must carry no TURN user name for none to come back. -/
theorem media_config_round_trip (c : MediaConfig) (default : PjsuaMediaConfig)
    (hcred : ∀ cred, c.turnCred = some cred → cred.username ≠ "")
    (hnone : c.turnCred = none → default.turnUsername = "") :
    (MediaConfig.new default).cvtFromPjsua (c.cvtToPjsua default) =
      { c with
        turnCred := c.turnCred.map fun cred =>
          AuthCred.new cred.realm cred.username cred.passwd (.int cred.passwdType) 0 } := by
  rw [MediaConfig.cvtFromPjsua_cvtToPjsua]
  refine congrArg (fun t => { c with turnCred := t }) ?_
  cases hc : c.turnCred with
  | none => rw [MediaConfig.turnCred_of_none _ _ _ hc, if_neg (not_not.mpr (hnone hc))]; rfl
  | some cred => rw [MediaConfig.turnCred_of_some _ _ _ _ hc, if_pos (hcred cred hc)]; rfl

/-- A TURN credential for alice in a media configuration built on an engine default with no
TURN user comes back whole but for the scheme and password encoding. -/
theorem turn_credential_reloaded :
    let default : PjsuaMediaConfig :=
      ⟨16000, 0, 5, 1, 20, 32, 6, 0, false, 30, 0, 0, 0, 256, -1, -1, true, false, "", 17,
        "", "", "", 0⟩
    let c : MediaConfig :=
      { MediaConfig.new default with
        turnCred := some (AuthCred.new "example.com" "alice" "secret" "Digest" 0) }
    (MediaConfig.new default).cvtFromPjsua (c.cvtToPjsua default) =
      { c with turnCred := some (AuthCred.new "example.com" "alice" "secret" (.int 0) 0) } :=
  media_config_round_trip _ _ (fun _ h => by cases h; decide) (fun _ => rfl)

/-- Read back from its records, a TURN credential for alice has scheme `0` in place of
`"Digest"`, and an account configuration for alice leaves her credential twice in the shared
`auth_cred`. -/
theorem round_trip_rewrites_credentials :
    let default : PjsuaMediaConfig :=
      ⟨16000, 0, 5, 1, 20, 32, 6, 0, false, 30, 0, 0, 0, 256, -1, -1, true, false, "", 17,
        "", "", "", 0⟩
    let c : MediaConfig :=
      { MediaConfig.new default with
        turnCred := some (AuthCred.new "example.com" "alice" "secret" "Digest" 0) }
    let accDefault : PjsuaAccConfig :=
      ⟨0, "", "", "", 0, false, false, "", [], [], false, "", -1, true, 15, "\r\n", 0, 1⟩
    let built : AccountConfig × List AuthCred :=
      AccountConfig.new accDefault [] ⟨"example.com", "alice", "secret", "", "", ""⟩
    let fresh : AccountConfig × List AuthCred :=
      AccountConfig.new accDefault built.2 ⟨"", "", "", "", "", ""⟩
    ((MediaConfig.new default).cvtFromPjsua (c.cvtToPjsua default)).turnCred =
        some ⟨.int 0, "example.com", "alice", 0, "secret"⟩ ∧
      (AccountConfig.cvtFromPjsua (built.1.cvtToPjsua accDefault built.2) fresh.2).2 =
        [AuthCred.new "*" "alice" "secret" "Digest" 0, AuthCred.new "*" "alice" "secret" "Digest" 0] := by
  decide

end Pjsua
