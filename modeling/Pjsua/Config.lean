import Mathlib.Data.List.Infix
import Pjsua.Basic

/-!
Account configuration and its conversion to the engine's record. `AccountConfig` declares
`proxy = []` and `auth_cred = []` as class attributes; `_cvt_from_pjsua` rebinds `proxy` on
the instance but only appends to `auth_cred`, so every instance reads and extends one list that
lives as long as the class. A run of constructions threads that list through.
-/

namespace Pjsua

/-- `AuthCred`: scheme, realm, user name, password encoding and password. The constructor stores
whatever it is given; `scheme` is documented as a string, but not every caller passes one. -/
structure AuthCred where
  scheme : PyVal
  realm : String
  username : String
  passwdType : Int
  passwd : String
  deriving DecidableEq, Repr

/-- `AuthCred(realm, username, passwd, scheme="Digest", passwd_type=0)` -/
def AuthCred.new (realm username passwd : String) (scheme : PyVal) (passwdType : Int) :
    AuthCred :=
  ⟨scheme, realm, username, passwdType, passwd⟩

/-- `_pjsua.Pjsip_Cred_Info` -/
structure PjsipCredInfo where
  realm : String
  scheme : PyVal
  username : String
  dataType : Int
  data : String
  deriving DecidableEq, Repr

/-- The conversion `_cvt_to_pjsua` applies to each credential. -/
def AuthCred.toCredInfo (c : AuthCred) : PjsipCredInfo :=
  ⟨c.realm, c.scheme, c.username, c.passwdType, c.passwd⟩

/-- The conversion `_cvt_from_pjsua` applies to each engine credential. -/
def PjsipCredInfo.toAuthCred (c : PjsipCredInfo) : AuthCred :=
  AuthCred.new c.realm c.username c.data c.scheme c.dataType

/-- The two credential conversions are inverse: the account path passes `scheme` and
`passwd_type` in their own places. -/
@[simp]
theorem PjsipCredInfo.toAuthCred_comp_toCredInfo :
    PjsipCredInfo.toAuthCred ∘ AuthCred.toCredInfo = id := rfl

@[simp]
theorem AuthCred.toCredInfo_comp_toAuthCred :
    AuthCred.toCredInfo ∘ PjsipCredInfo.toAuthCred = id := rfl

/-- The engine's account record, as `_pjsua.acc_config_default()` returns it. -/
structure PjsuaAccConfig where
  priority : Int
  id : String
  forceContact : String
  regUri : String
  regTimeout : Int
  require100rel : Bool
  publishEnabled : Bool
  pidfTupleId : String
  proxy : List String
  credInfo : List PjsipCredInfo
  authInitialSend : Bool
  authInitialAlgorithm : String
  transportId : Int
  allowContactRewrite : Bool
  kaInterval : Int
  kaData : String
  useSrtp : Int
  srtpSecureSignaling : Int
  deriving DecidableEq, Repr

/-- The members an `AccountConfig` instance holds itself. `auth_cred` is not among them: no
code assigns it on an instance, so `self.auth_cred` is the class attribute. -/
structure AccountConfig where
  priority : Int
  id : String
  forceContact : String
  regUri : String
  regTimeout : Int
  require100rel : Bool
  publishEnabled : Bool
  pidfTupleId : String
  proxy : List String
  authInitialSend : Bool
  authInitialAlgorithm : String
  transportId : Int
  allowContactRewrite : Bool
  kaInterval : Int
  kaData : String
  useSrtp : Int
  srtpSecureSignaling : Int
  deriving DecidableEq, Repr

/-- The arguments of `AccountConfig(domain, username, password, display, registrar, proxy)`. -/
structure AccountArgs where
  domain : String
  username : String
  password : String
  display : String
  registrar : String
  proxy : String
  deriving DecidableEq, Repr

def AccountArgs.credential (a : AccountArgs) : List AuthCred :=
  if a.domain ≠ "" ∧ a.username ≠ "" then [AuthCred.new "*" a.username a.password "Digest" 0]
  else []

namespace AccountConfig

/-- `_cvt_from_pjsua(cfg)`: every member but `auth_cred` is rebound from `cfg`; the engine's
credentials are appended to the shared `auth_cred`. -/
def cvtFromPjsua (cfg : PjsuaAccConfig) (authCred : List AuthCred) :
    AccountConfig × List AuthCred :=
  (⟨cfg.priority, cfg.id, cfg.forceContact, cfg.regUri, cfg.regTimeout, cfg.require100rel,
      cfg.publishEnabled, cfg.pidfTupleId, cfg.proxy, cfg.authInitialSend,
      cfg.authInitialAlgorithm, cfg.transportId, cfg.allowContactRewrite, cfg.kaInterval,
      cfg.kaData, cfg.useSrtp, cfg.srtpSecureSignaling⟩,
    authCred ++ cfg.credInfo.map PjsipCredInfo.toAuthCred)

/-- `build_config(domain, username, password, display, registrar, proxy)` -/
def buildConfig (self : AccountConfig) (authCred : List AuthCred) (a : AccountArgs) :
    AccountConfig × List AuthCred :=
  let display := if a.display ≠ "" then a.display ++ " " else a.display
  let userpart := if a.username ≠ "" then a.username ++ "@" else a.username
  let proxy := if a.proxy = "" then "sip:" ++ a.domain ++ ";lr" else a.proxy
  let proxy := if ";lr".toList <:+: proxy.toList then proxy else proxy ++ ";lr"
  ({ self with
      id := display ++ "<sip:" ++ userpart ++ a.domain ++ ">"
      regUri := if a.registrar = "" then "sip:" ++ a.domain else a.registrar
      proxy := self.proxy ++ [proxy] },
    if a.username ≠ "" then authCred ++ [AuthCred.new "*" a.username a.password "Digest" 0]
    else authCred)

/-- `AccountConfig(domain, username, password, display, registrar, proxy)`: the engine's
defaults, then `build_config` for a non-empty domain. -/
def new (default : PjsuaAccConfig) (authCred : List AuthCred) (a : AccountArgs) :
    AccountConfig × List AuthCred :=
  let (self, authCred) := cvtFromPjsua default authCred
  if a.domain ≠ "" then buildConfig self authCred a else (self, authCred)

/-- `_cvt_to_pjsua()`: a fresh default record with every member copied, and one engine
credential appended per entry of the shared `auth_cred`. -/
def cvtToPjsua (self : AccountConfig) (default : PjsuaAccConfig) (authCred : List AuthCred) :
    PjsuaAccConfig :=
  { default with
    priority := self.priority
    id := self.id
    forceContact := self.forceContact
    regUri := self.regUri
    regTimeout := self.regTimeout
    require100rel := self.require100rel
    publishEnabled := self.publishEnabled
    pidfTupleId := self.pidfTupleId
    proxy := self.proxy
    credInfo := default.credInfo ++ authCred.map AuthCred.toCredInfo
    authInitialSend := self.authInitialSend
    authInitialAlgorithm := self.authInitialAlgorithm
    transportId := self.transportId
    allowContactRewrite := self.allowContactRewrite
    kaInterval := self.kaInterval
    kaData := self.kaData
    useSrtp := self.useSrtp
    srtpSecureSignaling := self.srtpSecureSignaling }

/-- A fresh object given the record of `self` has every member of `self`. The shared
`auth_cred` is `authCred` when the record is made and `authCred'` when the fresh object reads
it back (its construction has extended it, `new_snd`); the engine's default credentials and a
second copy of `authCred` are appended to it. -/
theorem account_config_round_trip (self : AccountConfig) (default : PjsuaAccConfig)
    (authCred authCred' : List AuthCred) :
    cvtFromPjsua (self.cvtToPjsua default authCred) authCred' =
      (self, authCred' ++ default.credInfo.map PjsipCredInfo.toAuthCred ++ authCred) := by
  refine Prod.ext rfl ?_
  simp only [cvtFromPjsua, cvtToPjsua, List.map_append, List.map_map,
    PjsipCredInfo.toAuthCred_comp_toCredInfo, List.map_id, List.append_assoc]

/-- The record a configuration converts back to after reading `cfg`: `cfg` itself, but with
the engine default's credentials and every credential the shared `auth_cred` held before the
read in front of its own. -/
theorem account_record_round_trip (cfg default : PjsuaAccConfig) (authCred : List AuthCred) :
    (cvtFromPjsua cfg authCred).1.cvtToPjsua default (cvtFromPjsua cfg authCred).2 =
      { cfg with
        credInfo := default.credInfo ++ (authCred.map AuthCred.toCredInfo ++ cfg.credInfo) } := by
  simp only [cvtFromPjsua, cvtToPjsua, List.map_append, List.map_map,
    AuthCred.toCredInfo_comp_toAuthCred, List.map_id]

/-- The class attribute `auth_cred` after constructing one configuration per entry of a
history, starting from the class definition's `[]`. -/
def history (default : PjsuaAccConfig) (hs : List AccountArgs) : List AuthCred :=
  hs.foldl (fun authCred a => (new default authCred a).2) []

/-- The engine record of a configuration constructed after a history. -/
def convertedAfter (default : PjsuaAccConfig) (hs : List AccountArgs) (a : AccountArgs) :
    PjsuaAccConfig :=
  let (self, authCred) := new default (history default hs) a
  self.cvtToPjsua default authCred

theorem new_snd (default : PjsuaAccConfig) (authCred : List AuthCred) (a : AccountArgs) :
    (new default authCred a).2 =
      authCred ++ default.credInfo.map PjsipCredInfo.toAuthCred ++ a.credential := by
  unfold new cvtFromPjsua AccountArgs.credential
  by_cases hd : a.domain = "" <;> by_cases hu : a.username = "" <;> simp [hd, hu, buildConfig]

theorem mem_history_of_mem {default : PjsuaAccConfig} {c : AuthCred} (hs : List AccountArgs)
    {authCred : List AuthCred} (hc : c ∈ authCred) :
    c ∈ hs.foldl (fun authCred a => (new default authCred a).2) authCred := by
  induction hs generalizing authCred with
  | nil => exact hc
  | cons a hs ih => exact ih (by simp [new_snd, hc])

theorem mem_history {default : PjsuaAccConfig} {c : AuthCred} {b : AccountArgs}
    {hs : List AccountArgs} (hb : b ∈ hs) (hc : c ∈ b.credential) : c ∈ history default hs := by
  unfold history
  generalize ([] : List AuthCred) = authCred
  induction hs generalizing authCred with
  | nil => cases hb
  | cons a hs ih =>
      rcases List.mem_cons.mp hb with rfl | hb
      · exact mem_history_of_mem hs (by simp [new_snd, hc])
      · exact ih hb _

theorem convertedAfter_credInfo (default : PjsuaAccConfig) (hs : List AccountArgs)
    (a : AccountArgs) :
    (convertedAfter default hs a).credInfo =
      default.credInfo ++ (history default hs ++ default.credInfo.map PjsipCredInfo.toAuthCred ++
        a.credential).map AuthCred.toCredInfo := by
  simp only [convertedAfter, cvtToPjsua, ← new_snd]

/-- Every credential of every earlier configuration reaches the engine record of every later
one. -/
theorem credential_leaks (default : PjsuaAccConfig) {hs : List AccountArgs} {b : AccountArgs}
    (hb : b ∈ hs) {c : AuthCred} (hc : c ∈ b.credential) (a : AccountArgs) :
    c.toCredInfo ∈ (convertedAfter default hs a).credInfo := by
  rw [convertedAfter_credInfo]
  exact List.mem_append_right _ (List.mem_map_of_mem _ (by simp [mem_history hb hc]))

end AccountConfig

/-- Alice's password reaches the engine record of an account configured for Bob once Alice's
configuration has been built before it, and the record of every account configured after. -/
theorem earlier_password_reaches_later_account :
    let default : PjsuaAccConfig :=
      ⟨0, "", "", "", 0, false, false, "", [], [], false, "", -1, true, 15, "\r\n", 0, 1⟩
    (AccountConfig.convertedAfter default [] ⟨"example.com", "bob", "pw", "", "", ""⟩).credInfo =
        [⟨"*", "Digest", "bob", 0, "pw"⟩] ∧
      (AccountConfig.convertedAfter default [⟨"example.com", "alice", "secret", "", "", ""⟩]
          ⟨"example.com", "bob", "pw", "", "", ""⟩).credInfo =
        [⟨"*", "Digest", "alice", 0, "secret"⟩, ⟨"*", "Digest", "bob", 0, "pw"⟩] ∧
      ∀ a, (⟨"*", "Digest", "alice", 0, "secret"⟩ : PjsipCredInfo) ∈
        (AccountConfig.convertedAfter default [⟨"example.com", "alice", "secret", "", "", ""⟩]
          a).credInfo :=
  ⟨by decide, by decide,
    AccountConfig.credential_leaks _ (List.mem_singleton_self _)
      (c := ⟨"Digest", "*", "alice", 0, "secret"⟩) (by decide)⟩

end Pjsua
