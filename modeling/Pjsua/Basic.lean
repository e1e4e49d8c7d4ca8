import Mathlib.Data.List.Basic

/-!
The Python objects the wrapper `pjsua.py` passes around: dictionaries keyed by engine handles,
references to the `Call`, `Account` and `Buddy` wrappers, and the exceptions its code raises.
A dictionary is read through its lookups; identity of wrappers is equality of references,
as Python's `==` is on classes without `__eq__`.
-/

namespace Pjsua

/-- A Python dictionary, seen through what a lookup finds at each key. -/
structure Dict (κ α : Type) where
  get? : κ → Option α

namespace Dict
variable {κ α : Type}

def empty : Dict κ α := ⟨fun _ => none⟩

/-- `d.has_key(k)` -/
def hasKey (d : Dict κ α) (k : κ) : Bool := (d.get? k).isSome

/-- `d[k] = v` -/
def set [DecidableEq κ] (d : Dict κ α) (k : κ) (v : α) : Dict κ α :=
  ⟨fun k' => if k' = k then some v else d.get? k'⟩

/-- `del d[k]`; the module runs it only on a key it has just found. -/
def del [DecidableEq κ] (d : Dict κ α) (k : κ) : Dict κ α :=
  ⟨fun k' => if k' = k then none else d.get? k'⟩

/-- `d.has_key(k) and d[k] or None`. Wrappers define neither `__len__` nor `__nonzero__`, so a
stored wrapper is true in a test and the idiom answers it. -/
def lookup (d : Dict κ α) (k : κ) : Option α :=
  if d.hasKey k then d.get? k else none

@[ext] theorem ext {d e : Dict κ α} (h : ∀ k, d.get? k = e.get? k) : d = e := by
  cases d; cases e; simp only [mk.injEq]; funext k; exact h k

@[simp] theorem get?_empty (k : κ) : (empty : Dict κ α).get? k = none := rfl

@[simp] theorem get?_set [DecidableEq κ] (d : Dict κ α) (k k' : κ) (v : α) :
    (d.set k v).get? k' = if k' = k then some v else d.get? k' := rfl

@[simp] theorem get?_del [DecidableEq κ] (d : Dict κ α) (k k' : κ) :
    (d.del k).get? k' = if k' = k then none else d.get? k' := rfl

@[simp] theorem hasKey_eq (d : Dict κ α) (k : κ) : d.hasKey k = (d.get? k).isSome := rfl

@[simp] theorem lookup_eq (d : Dict κ α) (k : κ) : d.lookup k = d.get? k := by
  unfold lookup hasKey
  cases d.get? k <;> rfl

end Dict

/-- The Python values the modelled code passes through untyped: what the dispatchers hand
back to the engine, and what a constructor stores in a member it does not check. -/
inductive PyVal
  | none
  | bool (b : Bool)
  | int (n : Int)
  | str (s : String)
  | pair (a b : PyVal)
  deriving DecidableEq, Repr

instance : Coe String PyVal := ⟨.str⟩

/-- A reference to a `Call`, `Account`, `Buddy` or `Transport` wrapper: the object's identity and
its `_id`, the engine handle it was built with. No code assigns `_id` after `__init__`. -/
structure Obj where
  oid : Nat
  id : Int
  deriving DecidableEq, Repr

/-- The `obj` member of `Error`: the object that generated the error. -/
inductive Origin
  | none
  | lib (l : Nat)
  | wrapper (o : Obj)
  deriving DecidableEq, Repr

/-- `pjsua.Error`: the operation, the object it ran on, the engine's code and a message. -/
structure Error where
  opName : String
  obj : Origin
  errCode : Int
  errMsg : String
  deriving DecidableEq, Repr

/-- The exceptions the module's own code raises: `Error`, `TypeError` from a call with the
wrong number of arguments, `AttributeError` from an attribute read on `None`,
`ZeroDivisionError` from an integer division by zero. -/
inductive PyExc
  | error (e : Error)
  | typeError
  | attributeError
  | zeroDivisionError
  deriving DecidableEq, Repr

/-- `Lib._err_check(op_name, obj, err_code, err_msg)` -/
def errCheck (opName : String) (obj : Origin) (errCode : Int) (errMsg : String) :
    Except PyExc Unit :=
  if errCode ≠ 0 then .error (.error ⟨opName, obj, errCode, errMsg⟩) else .ok ()

theorem errCheck_eq_ok_iff (opName : String) (obj : Origin) (errCode : Int) (errMsg : String) :
    errCheck opName obj errCode errMsg = .ok () ↔ errCode = 0 := by
  unfold errCheck
  split <;> simp_all

/-- Calling a method that takes `arity` arguments with `n` of them: Python raises `TypeError`
before the body runs. -/
def pyApply {α : Type} (arity n : Nat) (body : Except PyExc α) : Except PyExc α :=
  if arity = n then body else .error .typeError

end Pjsua
