import Mathlib.Data.Option.Basic
import Mathlib.Logic.Function.Basic

set_option autoImplicit false

/-! Keys that expire: each holds its value up to a moment of its own. -/

/-- The value under each key, and the moment from which it is gone. -/
def TempStore (κ ν : Type) := κ → Option (ν × Nat)

namespace TempStore

variable {κ ν : Type}

def empty : TempStore κ ν := fun _ => none

/-- The value that is still there at `now`. -/
def get (S : TempStore κ ν) (now : Nat) (k : κ) : Option ν :=
  (S k).bind fun e => if now < e.2 then some e.1 else none

theorem get_eq_some {S : TempStore κ ν} {now : Nat} {k : κ} {v : ν} :
    S.get now k = some v ↔ ∃ expiry, S k = some (v, expiry) ∧ now < expiry := by
  cases h : S k with
  | none => simp [get, h]
  | some e =>
    simp only [get, h, Option.bind_some, Option.some.injEq]
    grind

variable [DecidableEq κ]

/-- `set` with a time to live. -/
def set (S : TempStore κ ν) (now ttl : Nat) (k : κ) (v : ν) : TempStore κ ν :=
  Function.update S k (some (v, now + ttl))

def del (S : TempStore κ ν) (k : κ) : TempStore κ ν := Function.update S k none

theorem set_apply (S : TempStore κ ν) (now ttl : Nat) (k j : κ) (v : ν) :
    S.set now ttl k v j = if j = k then some (v, now + ttl) else S j := Function.update_apply ..

theorem del_apply (S : TempStore κ ν) (k j : κ) : S.del k j = if j = k then none else S j :=
  Function.update_apply ..

end TempStore
