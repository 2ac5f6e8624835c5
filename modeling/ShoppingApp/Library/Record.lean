import Mathlib.Data.Option.Basic
import Mathlib.Tactic.Common

/-- A record is a partial map from field names to values. -/
abbrev Record (Key Value : Type*) := Key → Option Value

namespace Record

variable {Key Value : Type*}

/-- The patch replaces the fields that the values name and keeps the others. -/
def patch (base values : Record Key Value) : Record Key Value :=
  fun key => (values key).or (base key)

/-- A patch that is applied twice changes nothing more. -/
theorem patch_patch_self (base values : Record Key Value) :
    (base.patch values).patch values = base.patch values := by
  funext key
  cases named : values key <;> simp [patch, named]

/-- A record built from parallel arrays of values and keys. -/
def ofArrays [DecidableEq Key] (objects : List Value) (keys : List Key) : Record Key Value :=
  fun key => (keys.zip objects).lookup key

end Record
