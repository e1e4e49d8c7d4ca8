import Pjsua.Engine

/-!
The handle registry of `Lib`: the class attributes `call`, `account`, `buddy` and
`buddy_by_uri`, and the `_associate_*`, `_lookup_*` and `_disassociate_*` methods over them.
A run of those methods is compared with the contract read off its history: a handle answers
the object most recently associated under it, until that object is disassociated. The URI
index of buddies is written under `(user, host)` tuples and probed for removal with strings.
-/

namespace Pjsua

/-- A key of `buddy_by_uri`: `_associate_buddy` stores under the tuple `(user, host)`,
`_disassociate_buddy` probes with the URI string itself. -/
inductive UriKey
  | pair (user host : String)
  | str (uri : String)
  deriving DecidableEq, Repr

namespace Dict

/-- The body shared by `_disassociate_call` and `_disassociate_account`: the entry at the
object's own `_id` is deleted only when it is that object. -/
def disassociate (d : Dict Int Obj) (o : Obj) : Dict Int Obj :=
  if d.lookup o.id = some o then d.del o.id else d

theorem get?_disassociate (d : Dict Int Obj) (o : Obj) (h : Int) :
    (d.disassociate o).get? h =
      if h = o.id ∧ d.get? o.id = some o then none else d.get? h := by
  unfold disassociate
  by_cases ho : d.get? o.id = some o <;> by_cases hh : h = o.id <;> simp [ho, hh]

theorem disassociate_of_ne {d : Dict Int Obj} {o : Obj} (hne : d.get? o.id ≠ some o) :
    d.disassociate o = d := by
  simp [disassociate, hne]

end Dict

/-- The three primary maps. -/
inductive Kind
  | call
  | account
  | buddy
  deriving DecidableEq, Repr

/-- One call of a registry method, with any handle and any wrapper. -/
inductive RegOp
  | associate (k : Kind) (h : Int) (o : Obj)
  | disassociate (k : Kind) (o : Obj)
  deriving DecidableEq, Repr

namespace RegOp

def associatedAt (k : Kind) (h : Int) : RegOp → Option Obj
  | .associate k' h' o => if k' = k ∧ h' = h then some o else none
  | .disassociate _ _ => none

def target : RegOp → Kind × Int
  | .associate k h _ => (k, h)
  | .disassociate k o => (k, o.id)

theorem associatedAt_eq_some {op : RegOp} {k : Kind} {h : Int} {o : Obj} :
    op.associatedAt k h = some o ↔ op = .associate k h o := by
  cases op with
  | associate k' h' o' =>
      simp only [associatedAt, associate.injEq]
      split_ifs with hc <;> aesop
  | disassociate => simp [associatedAt]

end RegOp

def lastAssociation (k : Kind) (h : Int) : List RegOp → Option (Obj × List RegOp)
  | [] => none
  | op :: rest => (lastAssociation k h rest).or ((op.associatedAt k h).map (·, rest))

/-- The registry's contract read off a history: the object most recently passed to
`_associate_X` under `h`, unless it has been passed to `_disassociate_X` since. -/
def expectedLookup (k : Kind) (h : Int) (ops : List RegOp) : Option Obj :=
  match lastAssociation k h ops with
  | some (o, after) => if RegOp.disassociate k o ∈ after then none else some o
  | none => none

/-- Every object is associated under its own `_id`, as every wrapper constructor does. -/
def OwnHandles (ops : List RegOp) : Prop :=
  ∀ k h o, RegOp.associate k h o ∈ ops → h = o.id

theorem lastAssociation_append (k : Kind) (h : Int) (ops : List RegOp) (op : RegOp) :
    lastAssociation k h (ops ++ [op]) =
      match op.associatedAt k h with
      | some o => some (o, [])
      | none => (lastAssociation k h ops).map fun p => (p.1, p.2 ++ [op]) := by
  induction ops with
  | nil =>
      simp only [List.nil_append, lastAssociation, Option.none_or]
      cases op.associatedAt k h <;> rfl
  | cons x ops ih =>
      rw [List.cons_append, lastAssociation, lastAssociation, ih]
      cases op.associatedAt k h <;> cases lastAssociation k h ops <;>
        cases x.associatedAt k h <;> rfl

theorem mem_of_lastAssociation {k : Kind} {h : Int} {ops : List RegOp} {o : Obj}
    {after : List RegOp} (hl : lastAssociation k h ops = some (o, after)) :
    RegOp.associate k h o ∈ ops := by
  induction ops with
  | nil => cases hl
  | cons x ops ih =>
      simp only [lastAssociation] at hl
      cases hr : lastAssociation k h ops with
      | some p =>
          rw [hr] at hl
          cases hl
          exact List.mem_cons_of_mem _ (ih hr)
      | none =>
          rw [hr, Option.none_or, Option.map_eq_some'] at hl
          obtain ⟨o', ho', he⟩ := hl
          cases he
          simp [RegOp.associatedAt_eq_some.mp ho']

theorem expectedLookup_id {ops : List RegOp} (hown : OwnHandles ops) {k : Kind} {h : Int}
    {o : Obj} (he : expectedLookup k h ops = some o) : o.id = h := by
  unfold expectedLookup at he
  split at he
  · split_ifs at he
    cases he
    exact (hown _ _ _ (mem_of_lastAssociation ‹_›)).symm
  · cases he

theorem expectedLookup_associate (k k' : Kind) (h h' : Int) (o : Obj) (ops : List RegOp) :
    expectedLookup k' h' (ops ++ [.associate k h o]) =
      if k' = k ∧ h' = h then some o else expectedLookup k' h' ops := by
  unfold expectedLookup
  rw [lastAssociation_append]
  by_cases hc : k' = k ∧ h' = h
  · obtain ⟨rfl, rfl⟩ := hc
    simp [RegOp.associatedAt]
  · have hc' : ¬(k = k' ∧ h = h') := fun ⟨a, b⟩ => hc ⟨a.symm, b.symm⟩
    simp only [RegOp.associatedAt, hc', if_false, hc]
    cases lastAssociation k' h' ops <;> simp

theorem expectedLookup_disassociate (k k' : Kind) (h' : Int) (o : Obj) (ops : List RegOp) :
    expectedLookup k' h' (ops ++ [.disassociate k o]) =
      if k' = k ∧ expectedLookup k' h' ops = some o then none
      else expectedLookup k' h' ops := by
  unfold expectedLookup
  rw [lastAssociation_append]
  simp only [RegOp.associatedAt]
  cases lastAssociation k' h' ops with
  | none => simp
  | some p =>
      obtain ⟨o', after⟩ := p
      by_cases hm : RegOp.disassociate k' o' ∈ after <;> by_cases hk : k' = k <;> aesop

/-- The buddy an operation files in the URI index under `key`: an association of a buddy whose
URI, as the engine reports and parses it, has that `(user, host)`. -/
def RegOp.indexes (E : Engine) (key : UriKey) : RegOp → Option Obj
  | .associate .buddy _ o =>
      match SIPUri.new E (Buddy.info E o).uri with
      | .ok uri => if UriKey.pair uri.user uri.host = key then some o else none
      | .error _ => none
  | _ => none

/-- The URI index read off a history: under each key, the latest buddy associated whose URI has
that `(user, host)`. No operation of the history takes it back. -/
def latestBuddyAt (E : Engine) (key : UriKey) : List RegOp → Option Obj
  | [] => none
  | op :: rest => (latestBuddyAt E key rest).or (op.indexes E key)

theorem latestBuddyAt_append_singleton (E : Engine) (key : UriKey) (ops : List RegOp)
    (op : RegOp) :
    latestBuddyAt E key (ops ++ [op]) = (op.indexes E key).or (latestBuddyAt E key ops) := by
  induction ops with
  | nil => simp [latestBuddyAt]
  | cons x ops ih => rw [List.cons_append, latestBuddyAt, latestBuddyAt, ih, Option.or_assoc]

/-- The maps `Lib` keeps as class attributes (`buddy_by_contact` is declared and never used). -/
@[ext] structure Registry where
  call : Dict Int Obj
  account : Dict Int Obj
  buddy : Dict Int Obj
  buddyByUri : Dict UriKey Obj

namespace Registry
variable (E : Engine)

/-- The class attributes as the module defines them: four empty dictionaries. -/
def empty : Registry := ⟨.empty, .empty, .empty, .empty⟩

/-- `_associate_call(call_id, call)` -/
def associateCall (r : Registry) (callId : Int) (call : Obj) : Registry :=
  { r with call := r.call.set callId call }

/-- `_lookup_call(call_id)` -/
def lookupCall (r : Registry) (callId : Int) : Option Obj := r.call.lookup callId

/-- `_disassociate_call(call)` -/
def disassociateCall (r : Registry) (call : Obj) : Registry :=
  { r with call := r.call.disassociate call }

/-- `_associate_account(acc_id, account)` -/
def associateAccount (r : Registry) (accId : Int) (account : Obj) : Registry :=
  { r with account := r.account.set accId account }

/-- `_lookup_account(acc_id)` -/
def lookupAccount (r : Registry) (accId : Int) : Option Obj := r.account.lookup accId

/-- `_disassociate_account(account)` -/
def disassociateAccount (r : Registry) (account : Obj) : Registry :=
  { r with account := r.account.disassociate account }

/-- `_associate_buddy(buddy_id, buddy)`: the primary entry, then the URI index under the
`(user, host)` of the buddy's URI as the engine reports and parses it. When the parser raises,
the primary entry stays without its index entry. -/
def associateBuddy (r : Registry) (buddyId : Int) (buddy : Obj) : Except PyExc Unit × Registry :=
  let r := { r with buddy := r.buddy.set buddyId buddy }
  match SIPUri.new E (Buddy.info E buddy).uri with
  | .ok uri => (.ok (), { r with buddyByUri := r.buddyByUri.set (.pair uri.user uri.host) buddy })
  | .error e => (.error e, r)

/-- `_lookup_buddy(buddy_id, uri)`: the primary map, then, for a non-empty `uri` and no buddy
at `buddy_id`, the URI index under the `(user, host)` of `uri`, whose parse may raise. `none`
is Python's `uri=None`. -/
def lookupBuddy (r : Registry) (buddyId : Int) (uri : Option String) : Except PyExc (Option Obj) :=
  match uri, r.buddy.lookup buddyId with
  | some u, none =>
      if u = "" then .ok none
      else (SIPUri.new E u).map fun sipUri => r.buddyByUri.lookup (.pair sipUri.user sipUri.host)
  | _, buddy => .ok buddy

/-- `_lookup_call(h)`, `_lookup_account(h)` or `_lookup_buddy(h)`; with no URI, `_lookup_buddy`
never raises. -/
def lookup (r : Registry) : Kind → Int → Option Obj
  | .call, h => r.lookupCall h
  | .account, h => r.lookupAccount h
  | .buddy, h =>
      match r.lookupBuddy E h none with
      | .ok buddy => buddy
      | .error _ => none

/-- `_disassociate_buddy(buddy)`: the guarded primary removal, then a removal from the URI
index keyed by the buddy's URI string. -/
def disassociateBuddy (r : Registry) (buddy : Obj) : Registry :=
  let r := if r.lookup E .buddy buddy.id = some buddy then
    { r with buddy := r.buddy.del buddy.id } else r
  let key := UriKey.str (Buddy.info E buddy).uri
  if r.buddyByUri.hasKey key then { r with buddyByUri := r.buddyByUri.del key } else r

@[simp] theorem lookupBuddy_none (r : Registry) (buddyId : Int) :
    r.lookupBuddy E buddyId none = .ok (r.buddy.get? buddyId) := by
  simp [lookupBuddy]

@[simp] theorem lookup_buddy (r : Registry) (buddyId : Int) :
    r.lookup E .buddy buddyId = r.buddy.get? buddyId := by
  simp [lookup]

@[simp] theorem associateBuddy_buddy (r : Registry) (buddyId : Int) (buddy : Obj) :
    (r.associateBuddy E buddyId buddy).2.buddy = r.buddy.set buddyId buddy := by
  unfold associateBuddy
  split <;> rfl

@[simp] theorem associateBuddy_call (r : Registry) (buddyId : Int) (buddy : Obj) :
    (r.associateBuddy E buddyId buddy).2.call = r.call := by
  unfold associateBuddy
  split <;> rfl

@[simp] theorem associateBuddy_account (r : Registry) (buddyId : Int) (buddy : Obj) :
    (r.associateBuddy E buddyId buddy).2.account = r.account := by
  unfold associateBuddy
  split <;> rfl

theorem associateBuddy_buddyByUri (r : Registry) (buddyId : Int) (buddy : Obj) (key : UriKey) :
    (r.associateBuddy E buddyId buddy).2.buddyByUri.get? key =
      ((RegOp.associate .buddy buddyId buddy).indexes E key).or (r.buddyByUri.get? key) := by
  simp only [associateBuddy, RegOp.indexes]
  cases SIPUri.new E (Buddy.info E buddy).uri with
  | ok uri => by_cases hk : key = .pair uri.user uri.host <;> simp [hk, eq_comm]
  | error e => rfl

theorem disassociateBuddy_buddy (r : Registry) (buddy : Obj) :
    (r.disassociateBuddy E buddy).buddy = r.buddy.disassociate buddy := by
  unfold disassociateBuddy Dict.disassociate
  by_cases h : r.buddy.get? buddy.id = some buddy <;> simp [h, apply_ite Registry.buddy]

@[simp] theorem disassociateBuddy_call (r : Registry) (buddy : Obj) :
    (r.disassociateBuddy E buddy).call = r.call := by
  unfold disassociateBuddy
  by_cases h : r.buddy.get? buddy.id = some buddy <;> simp [h, apply_ite Registry.call]

@[simp] theorem disassociateBuddy_account (r : Registry) (buddy : Obj) :
    (r.disassociateBuddy E buddy).account = r.account := by
  unfold disassociateBuddy
  by_cases h : r.buddy.get? buddy.id = some buddy <;> simp [h, apply_ite Registry.account]

theorem disassociateBuddy_buddyByUri (r : Registry) (buddy : Obj) :
    (r.disassociateBuddy E buddy).buddyByUri =
      let key := UriKey.str (Buddy.info E buddy).uri
      if r.buddyByUri.hasKey key then r.buddyByUri.del key else r.buddyByUri := by
  unfold disassociateBuddy
  by_cases h : r.buddy.get? buddy.id = some buddy <;> simp [h, apply_ite Registry.buddyByUri]

def primary (r : Registry) : Kind → Dict Int Obj
  | .call => r.call
  | .account => r.account
  | .buddy => r.buddy


/-- `_associate_X(h, o)` or `_disassociate_X(o)` for the kind the operation names. -/
def apply (r : Registry) : RegOp → Registry
  | .associate .call h o => r.associateCall h o
  | .associate .account h o => r.associateAccount h o
  | .associate .buddy h o => (r.associateBuddy E h o).2
  | .disassociate .call o => r.disassociateCall o
  | .disassociate .account o => r.disassociateAccount o
  | .disassociate .buddy o => r.disassociateBuddy E o

def run (r : Registry) (ops : List RegOp) : Registry := ops.foldl (apply E) r

theorem run_append_singleton (r : Registry) (ops : List RegOp) (op : RegOp) :
    r.run E (ops ++ [op]) = (r.run E ops).apply E op := by
  simp [run]

theorem lookup_eq_primary (r : Registry) (k : Kind) (h : Int) :
    r.lookup E k h = (r.primary k).get? h := by
  cases k <;> simp [lookup, primary, lookupCall, lookupAccount]

theorem primary_associate (r : Registry) (k k' : Kind) (h : Int) (o : Obj) :
    (r.apply E (.associate k h o)).primary k' =
      if k' = k then (r.primary k).set h o else r.primary k' := by
  cases k <;> cases k' <;> simp [apply, primary] <;> rfl

theorem primary_disassociate (r : Registry) (k k' : Kind) (o : Obj) :
    (r.apply E (.disassociate k o)).primary k' =
      if k' = k then (r.primary k).disassociate o else r.primary k' := by
  cases k <;> cases k' <;> simp [apply, primary, disassociateBuddy_buddy] <;> rfl

/-- All an association does to the primary lookups. -/
theorem lookup_associate (r : Registry) (k k' : Kind) (h h' : Int) (o : Obj) :
    (r.apply E (.associate k h o)).lookup E k' h' =
      if k' = k ∧ h' = h then some o else r.lookup E k' h' := by
  simp only [lookup_eq_primary, primary_associate]
  by_cases hk : k' = k
  · subst hk; simp
  · simp [hk]

/-- All a disassociation does to the primary lookups. -/
theorem lookup_disassociate (r : Registry) (k k' : Kind) (h' : Int) (o : Obj) :
    (r.apply E (.disassociate k o)).lookup E k' h' =
      if k' = k ∧ h' = o.id ∧ r.lookup E k o.id = some o then none
      else r.lookup E k' h' := by
  simp only [lookup_eq_primary, primary_disassociate]
  by_cases hk : k' = k
  · subst hk; simp [Dict.get?_disassociate]
  · simp [hk]

/-- No key of the URI index is a string: only `_associate_buddy` stores into it. -/
def UriKeysArePairs (r : Registry) : Prop := ∀ s, r.buddyByUri.get? (.str s) = none

theorem buddyByUri_disassociateBuddy {r : Registry} (hr : r.UriKeysArePairs) (o : Obj) :
    (r.disassociateBuddy E o).buddyByUri = r.buddyByUri := by
  simp [disassociateBuddy_buddyByUri, hr _]

theorem indexes_str (op : RegOp) (s : String) : op.indexes E (.str s) = none := by
  unfold RegOp.indexes
  split
  · split <;> simp
  · rfl

theorem UriKeysArePairs.apply {r : Registry} (hr : r.UriKeysArePairs) (op : RegOp) :
    (r.apply E op).UriKeysArePairs := by
  intro s
  cases op with
  | associate k h o =>
      cases k <;> simp [Registry.apply, associateCall, associateAccount, associateBuddy_buddyByUri,
        indexes_str, hr s]
  | disassociate k o =>
      cases k <;> simp [Registry.apply, disassociateCall, disassociateAccount,
        buddyByUri_disassociateBuddy E hr, hr s]

theorem UriKeysArePairs.run {r : Registry} (hr : r.UriKeysArePairs) (ops : List RegOp) :
    (r.run E ops).UriKeysArePairs := by
  induction ops generalizing r with
  | nil => exact hr
  | cons op ops ih => exact ih (hr.apply E op)

theorem uriKeysArePairs_run (ops : List RegOp) : (empty.run E ops).UriKeysArePairs :=
  UriKeysArePairs.run E (fun _ => rfl) ops

theorem buddyByUri_apply {r : Registry} (hr : r.UriKeysArePairs) (op : RegOp) (key : UriKey) :
    (r.apply E op).buddyByUri.get? key = (op.indexes E key).or (r.buddyByUri.get? key) := by
  cases op with
  | associate k h o =>
      cases k
      case buddy => exact associateBuddy_buddyByUri E r h o key
      all_goals rfl
  | disassociate k o =>
      cases k
      case buddy => simp [Registry.apply, buddyByUri_disassociateBuddy E hr, RegOp.indexes]
      all_goals rfl

/-- Under every key, the URI index after any history holds the latest buddy associated whose
URI, as the engine reports it, has that `(user, host)`: no disassociation removes an entry. -/
theorem uri_index_keeps_latest (ops : List RegOp) (key : UriKey) :
    (empty.run E ops).buddyByUri.get? key = latestBuddyAt E key ops := by
  induction ops using List.reverseRecOn with
  | nil => rfl
  | append_singleton ops op ih =>
      rw [run_append_singleton, buddyByUri_apply E (uriKeysArePairs_run E ops), ih,
        latestBuddyAt_append_singleton]

theorem apply_disassociate_of_ne {r : Registry} (hr : r.UriKeysArePairs) {k : Kind} {o : Obj}
    (hne : r.lookup E k o.id ≠ some o) : r.apply E (.disassociate k o) = r := by
  rw [lookup_eq_primary] at hne
  cases k <;> simp only [primary] at hne
  case call => simp [Registry.apply, disassociateCall, Dict.disassociate_of_ne hne]
  case account => simp [Registry.apply, disassociateAccount, Dict.disassociate_of_ne hne]
  case buddy =>
      ext1
      · simp [Registry.apply]
      · simp [Registry.apply]
      · simpa [Registry.apply, disassociateBuddy_buddy] using Dict.disassociate_of_ne hne
      · exact buddyByUri_disassociateBuddy E hr o

theorem lookup_apply_of_ne (r : Registry) (op : RegOp) {k : Kind} {h : Int}
    (hne : op.target ≠ (k, h)) : (r.apply E op).lookup E k h = r.lookup E k h := by
  cases op with
  | associate k' h' o =>
      rw [lookup_associate, if_neg]
      rintro ⟨rfl, rfl⟩
      exact hne rfl
  | disassociate k' o =>
      rw [lookup_disassociate, if_neg]
      rintro ⟨rfl, rfl, -⟩
      exact hne rfl

/-- Replaying any history of own-handle associations answers what the contract expects. -/
theorem lookup_run_eq_expected (ops : List RegOp) (hown : OwnHandles ops) (k : Kind) (h : Int) :
    (empty.run E ops).lookup E k h = expectedLookup k h ops := by
  induction ops using List.reverseRecOn generalizing k h with
  | nil => cases k <;> rfl
  | append_singleton ops op ih =>
      have hown' : OwnHandles ops := fun k h o hm => hown k h o (List.mem_append_left _ hm)
      rw [run_append_singleton]
      cases op with
      | associate k' h' o => rw [lookup_associate, expectedLookup_associate, ih hown']
      | disassociate k' o =>
          rw [lookup_disassociate, expectedLookup_disassociate, ih hown', ih hown']
          by_cases hk : k = k' ∧ expectedLookup k h ops = some o
          · obtain ⟨rfl, he⟩ := hk
            obtain rfl := expectedLookup_id hown' he
            simp [he]
          · rw [if_neg hk, if_neg]
            rintro ⟨rfl, rfl, he⟩
            exact hk ⟨rfl, he⟩

/-- The registry contract, for the three primary maps: replaying a history in which each
object is associated under its own handle answers the contract; a disassociation of an object
not mapped at its handle changes nothing; an operation leaves every other kind and handle. -/
theorem registry_contract (E : Engine) :
    (∀ ops, OwnHandles ops → ∀ k h,
      (empty.run E ops).lookup E k h = expectedLookup k h ops) ∧
    (∀ ops k (o : Obj), (empty.run E ops).lookup E k o.id ≠ some o →
      (empty.run E ops).apply E (.disassociate k o) = empty.run E ops) ∧
    (∀ (r : Registry) (op : RegOp) k h, op.target ≠ (k, h) →
      (r.apply E op).lookup E k h = r.lookup E k h) :=
  ⟨lookup_run_eq_expected E,
    fun ops _ _ hne => apply_disassociate_of_ne E (uriKeysArePairs_run E ops) hne,
    fun r op _ _ hne => lookup_apply_of_ne E r op hne⟩

/-- The spec's regression case: A and then B at handle 1, then A disassociated, leaves B. -/
theorem registry_contract_reuse :
    OwnHandles [.associate .call 1 ⟨0, 1⟩, .associate .call 1 ⟨1, 1⟩,
      .disassociate .call ⟨0, 1⟩] ∧
    (empty.run Engine.blank [.associate .call 1 ⟨0, 1⟩, .associate .call 1 ⟨1, 1⟩,
      .disassociate .call ⟨0, 1⟩]).lookup Engine.blank .call 1 = some ⟨1, 1⟩ := by
  have hown : OwnHandles [.associate .call 1 ⟨0, 1⟩, .associate .call 1 ⟨1, 1⟩,
      .disassociate .call ⟨0, 1⟩] := by
    intro k h o hm
    simp only [List.mem_cons, RegOp.associate.injEq, List.mem_singleton, reduceCtorEq,
      List.not_mem_nil, or_false] at hm
    rcases hm with ⟨-, rfl, rfl⟩ | ⟨-, rfl, rfl⟩ <;> rfl
  exact ⟨hown, ((registry_contract Engine.blank).1 _ hown .call 1).trans (by decide)⟩

/-- Associated under a handle other than its own `_id`, an object outlives its own
disassociation: `_disassociate_call` removes by `call._id`. -/
theorem foreign_handle_outlives_disassociation :
    (empty.run Engine.blank [.associate .call 1 ⟨0, 2⟩, .disassociate .call ⟨0, 2⟩]).lookup
        Engine.blank .call 1 = some ⟨0, 2⟩ ∧
      expectedLookup .call 1 [.associate .call 1 ⟨0, 2⟩, .disassociate .call ⟨0, 2⟩] = none := by
  decide

/-- A buddy disassociated from the registry is still found through its URI: the URI index is
written under `(user, host)` and probed for removal with the URI string. -/
theorem disassociated_buddy_found_by_uri :
    let E : Engine := { Engine.blank with
      parseSimpleUri := fun _ => .ok ⟨"sip", "alice", "example.com", 0, ""⟩
      buddyGetInfo := fun _ => some ⟨"sip:alice@example.com"⟩ }
    let r := empty.run E [.associate .buddy 1 ⟨0, 1⟩, .disassociate .buddy ⟨0, 1⟩]
    r.lookup E .buddy 1 = none ∧
      r.lookupBuddy E (-1) (some "sip:alice@example.com") = .ok (some ⟨0, 1⟩) :=
  ⟨by decide, rfl⟩

end Registry

end Pjsua
