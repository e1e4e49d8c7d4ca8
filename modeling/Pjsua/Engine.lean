import Pjsua.Basic

/-!
The native module `_pjsua` as the wrapper sees it. Its source is not part of the wrapper; the
answers it gives to the wrapper's queries are parameters, fixed for a run, and the requests the
wrapper sends it are recorded as `EngineCall`s. `parse_simple_uri` may raise instead of
answering. `SIPUri` and `Buddy.info` are the wrapper's own code over those answers.
-/

namespace Pjsua

/-- `SIPUri`: the parts `_pjsua.parse_simple_uri` returns. -/
structure SIPUri where
  scheme : String
  user : String
  host : String
  port : Int
  transport : String
  deriving DecidableEq, Repr

/-- The `uri` member of the engine's buddy info record (the one member the modelled code reads). -/
structure PjsuaBuddyInfo where
  uri : String
  deriving DecidableEq, Repr

/-- The `remote_info` member of the engine's call info record. -/
structure PjsuaCallInfo where
  remoteInfo : String
  deriving DecidableEq, Repr

/-- The `acc_uri` member of the engine's account info record. -/
structure PjsuaAccInfo where
  accUri : String
  deriving DecidableEq, Repr

/-- The answers of `_pjsua` to the queries the registry and the wrappers make. -/
structure Engine where
  parseSimpleUri : String → Except PyExc SIPUri
  buddyGetInfo : Int → Option PjsuaBuddyInfo
  callGetInfo : Int → Option PjsuaCallInfo
  accGetInfo : Int → Option PjsuaAccInfo

/-- A request the wrapper sends to `_pjsua`. -/
inductive EngineCall
  | create
  | destroy
  | handleEvents (timeout : Int)
  | callHangup (callId code : Int)
  deriving DecidableEq, Repr

def Engine.blank : Engine :=
  ⟨fun _ => .ok ⟨"", "", "", 0, ""⟩, fun _ => none, fun _ => none, fun _ => none⟩

namespace SIPUri

/-- The class defaults of `SIPUri`. -/
def empty : SIPUri := ⟨"", "", "", 0, ""⟩

/-- `SIPUri(uri)`: `decode` runs only for a non-empty string, and raises when the engine's
parser does. -/
def new (E : Engine) (uri : String) : Except PyExc SIPUri :=
  if uri = "" then .ok empty else E.parseSimpleUri uri

/-- `encode()`. A port is appended with `output(self.port)`, a call of the string built so far,
which raises `TypeError`. -/
def encode (self : SIPUri) : Except PyExc String :=
  let output := self.scheme ++ ":"
  let output := if self.user ≠ "" then output ++ self.user ++ "@" else output
  let output := output ++ self.host
  if self.port ≠ 0 then .error .typeError
  else .ok (if self.transport ≠ "" then output ++ ";transport=" ++ self.transport else output)

def Separated (u : SIPUri) : Prop :=
  ':' ∉ u.scheme.data ∧ '@' ∉ u.user.data ∧ ';' ∉ u.user.data ∧ '@' ∉ u.host.data ∧
    ';' ∉ u.host.data

instance : DecidablePred Separated := fun _ =>
  inferInstanceAs (Decidable (_ ∧ _ ∧ _ ∧ _ ∧ _))

def userPart (u : SIPUri) : List Char := if u.user ≠ "" then u.user.data ++ ['@'] else []

def transportPart (u : SIPUri) : List Char :=
  if u.transport ≠ "" then ';' :: ("transport=".data ++ u.transport.data) else []

theorem encode_eq_ok {u : SIPUri} {s : String} (h : u.encode = .ok s) :
    u.port = 0 ∧ s.data = u.scheme.data ++ ':' :: ((u.userPart ++ u.host.data) ++ u.transportPart) := by
  unfold encode at h
  dsimp only at h
  by_cases hp : u.port = 0
  · rw [if_neg (not_not.mpr hp), Except.ok.injEq] at h
    subst h
    refine ⟨hp, ?_⟩
    unfold userPart transportPart
    split_ifs <;> simp
  · rw [if_pos hp] at h
    cases h

theorem append_sep_inj {c : Char} {a a' b b' : List Char} (ha : c ∉ a) (ha' : c ∉ a')
    (h : a ++ c :: b = a' ++ c :: b') : a = a' ∧ b = b' := by
  induction a generalizing a' with
  | nil =>
      cases a' with
      | nil => exact ⟨rfl, (List.cons.inj h).2⟩
      | cons x a' =>
          obtain ⟨rfl, -⟩ := List.cons.inj h
          exact absurd (List.mem_cons_self _ _) ha'
  | cons x a ih =>
      cases a' with
      | nil =>
          obtain ⟨rfl, -⟩ := List.cons.inj h
          exact absurd (List.mem_cons_self _ _) ha
      | cons x' a' =>
          obtain ⟨rfl, h'⟩ := List.cons.inj h
          obtain ⟨rfl, rfl⟩ := ih (fun hm => ha (List.mem_cons_of_mem _ hm))
            (fun hm => ha' (List.mem_cons_of_mem _ hm)) h'
          exact ⟨rfl, rfl⟩

theorem append_tail_inj {c : Char} {p p' q q' : List Char} (hp : c ∉ p) (hp' : c ∉ p')
    (hq : q = [] ∨ ∃ r, q = c :: r) (hq' : q' = [] ∨ ∃ r, q' = c :: r) (h : p ++ q = p' ++ q') :
    p = p' ∧ q = q' := by
  rcases hq with rfl | ⟨r, rfl⟩ <;> rcases hq' with rfl | ⟨r', rfl⟩
  · simpa using h
  · exact absurd (List.append_nil p ▸ h ▸ List.mem_append_right p' (List.mem_cons_self c r')) hp
  · exact absurd (List.append_nil p' ▸ h.symm ▸ List.mem_append_right p (List.mem_cons_self c r)) hp'
  · exact (append_sep_inj hp hp' h).imp id (congrArg _)

theorem transportPart_shape (u : SIPUri) : u.transportPart = [] ∨ ∃ r, u.transportPart = ';' :: r := by
  unfold transportPart
  split_ifs
  · exact .inr ⟨_, rfl⟩
  · exact .inl rfl

theorem semicolon_not_mem {u : SIPUri} (hu : u.Separated) : ';' ∉ u.userPart ++ u.host.data := by
  unfold userPart
  split_ifs <;> simp [hu.2.2.1, hu.2.2.2.2]

theorem user_host_inj {u v : SIPUri} (hu : u.Separated) (hv : v.Separated)
    (h : u.userPart ++ u.host.data = v.userPart ++ v.host.data) : u.user = v.user ∧ u.host = v.host := by
  unfold userPart at h
  by_cases eu : u.user = "" <;> by_cases ev : v.user = "" <;>
    simp only [eu, ev, ne_eq, not_true_eq_false, not_false_eq_true, if_true, if_false,
      List.nil_append, List.append_assoc, List.singleton_append] at h
  · exact ⟨eu.trans ev.symm, String.ext h⟩
  · exact absurd (h ▸ List.mem_append_right _ (List.mem_cons_self _ _)) hu.2.2.2.1
  · exact absurd (h.symm ▸ List.mem_append_right _ (List.mem_cons_self _ _)) hv.2.2.2.1
  · obtain ⟨h₁, h₂⟩ := append_sep_inj hu.2.1 hv.2.1 h
    exact ⟨String.ext h₁, String.ext h₂⟩

theorem transport_inj {u v : SIPUri} (h : u.transportPart = v.transportPart) :
    u.transport = v.transport := by
  unfold transportPart at h
  by_cases eu : u.transport = "" <;> by_cases ev : v.transport = "" <;> simp [eu, ev] at h
  · exact eu.trans ev.symm
  · exact String.ext h

/-- `encode` names one URI: two URIs whose parts keep clear of the separators and that
encode to the same string are the same URI. -/
theorem encode_injective {u v : SIPUri} {s : String} (hu : u.encode = .ok s)
    (hv : v.encode = .ok s) (su : u.Separated) (sv : v.Separated) : u = v := by
  obtain ⟨pu, eu⟩ := encode_eq_ok hu
  obtain ⟨pv, ev⟩ := encode_eq_ok hv
  obtain ⟨hscheme, hrest⟩ := append_sep_inj su.1 sv.1 (eu.symm.trans ev)
  obtain ⟨huh, ht⟩ := append_tail_inj (semicolon_not_mem su) (semicolon_not_mem sv)
    (transportPart_shape u) (transportPart_shape v) hrest
  obtain ⟨huser, hhost⟩ := user_host_inj su sv huh
  cases u
  cases v
  simp only [mk.injEq]
  exact ⟨String.ext hscheme, huser, hhost, pu.trans pv.symm, transport_inj ht⟩

/-- A URI with a user and a transport parameter encodes to the one string it alone encodes to. -/
theorem alice_uri_encoded :
    SIPUri.encode ⟨"sip", "alice", "example.com", 0, "tcp"⟩ =
        .ok "sip:alice@example.com;transport=tcp" ∧
      (⟨"sip", "alice", "example.com", 0, "tcp"⟩ : SIPUri) = ⟨"sip", "alice", "example.com", 0, "tcp"⟩ :=
  ⟨rfl, encode_injective rfl rfl (by decide) (by decide)⟩

end SIPUri

/-- `BuddyInfo`, reduced to its `uri` member. -/
structure BuddyInfo where
  uri : String
  deriving DecidableEq, Repr

/-- `Buddy.info()`: `BuddyInfo(_pjsua.buddy_get_info(self._id))`. A `None` answer leaves the
class default `uri = ""`; nothing is checked. -/
def Buddy.info (E : Engine) (self : Obj) : BuddyInfo :=
  match E.buddyGetInfo self.id with
  | some bi => ⟨bi.uri⟩
  | none => ⟨""⟩

end Pjsua
