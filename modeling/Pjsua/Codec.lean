import Pjsua.Errors

/-!
Codecs: the engine's codec records, the wrapper's `CodecInfo` and `CodecParameter` built from
them, and the two `Lib` methods that report them, `enum_codecs` and `get_codec_parameter`.
Both read the packet length from the same engine record, `frm_ptime × frm_per_pkt`;
`CodecInfo.__init__` assigns `ptime` a second time, from the payload type, and never assigns
`pt`. The module is Python 2: `/` on integers is floor division, `Int.fdiv`.
-/

namespace Pjsua

/-- The `info` member of the engine's codec parameter record, reduced to what the wrapper
reads. -/
structure PjmediaCodecParamInfo where
  clockRate : Int
  channelCount : Int
  avgBps : Int
  frmPtime : Int
  pt : Int
  deriving DecidableEq, Repr

/-- The `setting` member of the engine's codec parameter record. -/
structure PjmediaCodecParamSetting where
  frmPerPkt : Int
  vad : Bool
  plc : Bool
  deriving DecidableEq, Repr

/-- The record `_pjsua.codec_get_param(name)` returns. -/
structure PjmediaCodecParam where
  info : PjmediaCodecParamInfo
  setting : PjmediaCodecParamSetting
  deriving DecidableEq, Repr

/-- `_pjsua.Codec_Info`: the codec's name and priority. -/
structure PjsuaCodecInfo where
  id : String
  priority : Int
  deriving DecidableEq, Repr

/-- The codec answers of `_pjsua`: the list `enum_codecs()` returns, and the parameter record
`codec_get_param(name)` returns, or `None`. -/
structure CodecEngine where
  enumCodecs : List PjsuaCodecInfo
  codecGetParam : String → Option PjmediaCodecParam

/-- `CodecInfo` -/
structure CodecInfo where
  name : String
  priority : Int
  clockRate : Int
  channelCount : Int
  avgBps : Int
  frmPtime : Int
  ptime : Int
  pt : Int
  vadEnabled : Bool
  plcEnabled : Bool
  deriving DecidableEq, Repr

namespace CodecInfo

/-- The class attributes. -/
def classDefaults : CodecInfo := ⟨"", 0, 0, 0, 0, 0, 0, 0, false, false⟩

/-- `CodecInfo(codec_info, codec_param)`: `ptime` is assigned the packet length, then the
payload type; `pt` keeps its class default. -/
def new (codecInfo : PjsuaCodecInfo) (codecParam : PjmediaCodecParam) : CodecInfo :=
  let self : CodecInfo :=
    { classDefaults with
      name := codecInfo.id
      priority := codecInfo.priority
      clockRate := codecParam.info.clockRate
      channelCount := codecParam.info.channelCount
      avgBps := codecParam.info.avgBps
      frmPtime := codecParam.info.frmPtime
      ptime := codecParam.info.frmPtime * codecParam.setting.frmPerPkt }
  { self with
    ptime := codecParam.info.pt
    vadEnabled := codecParam.setting.vad
    plcEnabled := codecParam.setting.plc }

end CodecInfo

/-- `CodecParameter`. `_codec_param` is the engine record it was built from: the class
attribute `None` is replaced by every construction. -/
structure CodecParameter where
  ptime : Int
  vadEnabled : Bool
  plcEnabled : Bool
  codecParam : PjmediaCodecParam
  deriving DecidableEq, Repr

namespace CodecParameter

/-- `CodecParameter(codec_param)` -/
def new (codecParam : PjmediaCodecParam) : CodecParameter :=
  ⟨codecParam.info.frmPtime * codecParam.setting.frmPerPkt, codecParam.setting.vad,
    codecParam.setting.plc, codecParam⟩

/-- `_cvt_to_pjsua()`: the stored record with `frm_per_pkt = ptime / frm_ptime`, `vad` and
`plc` assigned. The record is updated in place and returned; a zero `frm_ptime` raises before
any member is assigned. -/
def cvtToPjsua (self : CodecParameter) : Except PyExc PjmediaCodecParam :=
  let cp := self.codecParam
  if cp.info.frmPtime = 0 then .error .zeroDivisionError
  else
    .ok { cp with
      setting :=
        { cp.setting with
          frmPerPkt := self.ptime.fdiv cp.info.frmPtime
          vad := self.vadEnabled
          plc := self.plcEnabled } }

end CodecParameter

/-- `Lib.enum_codecs()`: one `CodecInfo(ci, cp)` per codec of `_pjsua.enum_codecs()`, in order,
skipping a codec whose `codec_get_param(ci.id)` is `None`. -/
def Lib.enumCodecs (E : CodecEngine) : List CodecInfo :=
  E.enumCodecs.foldl
    (fun codecInfo ci =>
      match E.codecGetParam ci.id with
      | some cp => codecInfo ++ [CodecInfo.new ci cp]
      | none => codecInfo)
    []

/-- `Lib.get_codec_parameter(name)`: the checked accessor, then `CodecParameter(cp)`. -/
def Lib.getCodecParameter (self : Nat) (E : CodecEngine) (name : String) :
    Except PyExc CodecParameter := do
  let cp ← query "get_codec_parameter()" "Invalid codec name" (.lib self) (E.codecGetParam name)
  pure (CodecParameter.new cp)

/-- `Lib.set_codec_parameter(name, param)`: `param._cvt_to_pjsua()` is sent with
`_pjsua.codec_set_param(name, ...)`, whose status `err` is checked. -/
def Lib.setCodecParameter (self : Nat) (param : CodecParameter) (err : PjmediaCodecParam → Int) :
    Except PyExc Unit := do
  let cp ← param.cvtToPjsua
  request "set_codec_parameter()" (.lib self) (err cp)

theorem enumCodecs_foldl (E : CodecEngine) (cis : List PjsuaCodecInfo) (acc : List CodecInfo) :
    cis.foldl
        (fun codecInfo ci =>
          match E.codecGetParam ci.id with
          | some cp => codecInfo ++ [CodecInfo.new ci cp]
          | none => codecInfo)
        acc =
      acc ++ cis.filterMap fun ci => (E.codecGetParam ci.id).map (CodecInfo.new ci) := by
  induction cis generalizing acc with
  | nil => simp
  | cons ci cis ih =>
      simp only [List.foldl_cons, ih, List.filterMap_cons]
      cases E.codecGetParam ci.id <;> simp

theorem enumCodecs_eq_filterMap (E : CodecEngine) :
    Lib.enumCodecs E = E.enumCodecs.filterMap fun ci => (E.codecGetParam ci.id).map (CodecInfo.new ci) :=
  (enumCodecs_foldl E E.enumCodecs []).trans (List.nil_append _)

theorem getCodecParameter_of_some {self : Nat} {E : CodecEngine} {name : String}
    {cp : PjmediaCodecParam} (h : E.codecGetParam name = some cp) :
    Lib.getCodecParameter self E name = .ok (CodecParameter.new cp) := by
  simp only [Lib.getCodecParameter, h, query_some]
  rfl

/-- For PCMA (payload type 8, two 10 ms frames a packet) `enum_codecs` reports a packet length
of 8 ms and payload type 0, where `get_codec_parameter` reports 20 ms. -/
theorem enum_codecs_reports_payload_type_as_ptime :
    let cp : PjmediaCodecParam := ⟨⟨8000, 1, 64000, 10, 8⟩, ⟨2, true, true⟩⟩
    let E : CodecEngine :=
      ⟨[⟨"PCMA/8000/1", 128⟩], fun name => if name = "PCMA/8000/1" then some cp else none⟩
    (Lib.enumCodecs E).map (fun c => (c.ptime, c.pt)) = [(8, 0)] ∧
      (Lib.getCodecParameter 0 E "PCMA/8000/1").map CodecParameter.ptime = .ok 20 :=
  ⟨rfl, rfl⟩

/-- Every codec `enum_codecs` lists can be read back by its name with `get_codec_parameter`,
and the two agree on VAD and PLC. -/
theorem enum_codecs_agree_with_parameter (self : Nat) (E : CodecEngine) {c : CodecInfo}
    (hc : c ∈ Lib.enumCodecs E) :
    ∃ p, Lib.getCodecParameter self E c.name = .ok p ∧
      p.vadEnabled = c.vadEnabled ∧ p.plcEnabled = c.plcEnabled := by
  rw [enumCodecs_eq_filterMap, List.mem_filterMap] at hc
  obtain ⟨ci, -, hci⟩ := hc
  obtain ⟨cp, hcp, rfl⟩ := Option.map_eq_some'.mp hci
  exact ⟨_, getCodecParameter_of_some hcp, rfl, rfl⟩

/-- PCMA, listed by `enum_codecs`, is found by its name with VAD and PLC on. -/
theorem pcma_listed_and_found :
    let cp : PjmediaCodecParam := ⟨⟨8000, 1, 64000, 10, 8⟩, ⟨2, true, true⟩⟩
    let E : CodecEngine :=
      ⟨[⟨"PCMA/8000/1", 128⟩], fun name => if name = "PCMA/8000/1" then some cp else none⟩
    CodecInfo.new ⟨"PCMA/8000/1", 128⟩ cp ∈ Lib.enumCodecs E ∧
      ∃ p, Lib.getCodecParameter 0 E "PCMA/8000/1" = .ok p ∧ p.vadEnabled = true ∧
        p.plcEnabled = true := by
  intro cp E
  have hc : CodecInfo.new ⟨"PCMA/8000/1", 128⟩ cp ∈ Lib.enumCodecs E := List.mem_singleton.mpr rfl
  exact ⟨hc, enum_codecs_agree_with_parameter 0 E hc⟩

/-- The record of a parameter read from the engine converts back to that record, unless its
frame length is zero. -/
theorem codec_parameter_round_trip (cp : PjmediaCodecParam) :
    (CodecParameter.new cp).cvtToPjsua =
      if cp.info.frmPtime = 0 then .error .zeroDivisionError else .ok cp := by
  unfold CodecParameter.cvtToPjsua CodecParameter.new
  by_cases h : cp.info.frmPtime = 0
  · simp only [h, ↓reduceIte]
  · simp only [h, ↓reduceIte, Int.mul_fdiv_cancel_left _ h]

end Pjsua
