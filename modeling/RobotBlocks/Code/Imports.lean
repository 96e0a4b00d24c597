import RobotBlocks.Ascending

/-!
# Imports

The modules that generated code imports, each once and in ascending order of their names by code
point. `mem_insert` says that an insertion adds its module and nothing else.
-/

set_option autoImplicit false

namespace RobotBlocks.Code

/-- The modules that generated code imports. -/
structure Imports where
  /-- Their names in ascending order. -/
  modules : List String := []
  /-- No name comes twice, and they ascend. -/
  ascending : modules.Pairwise fun a b => a < b := by exact .nil
deriving DecidableEq

namespace Imports

/-- The imports with one more module. -/
def insert (imports : Imports) (name : String) : Imports where
  modules := Ascending.insert (fun name => name) name imports.modules
  ascending := Ascending.pairwise_insert (fun name => name) name imports.ascending

/-- What is imported after one more module. -/
@[simp]
theorem mem_insert (imports : Imports) (name other : String) :
    other ∈ (imports.insert name).modules ↔ other = name ∨ other ∈ imports.modules := by
  constructor
  · exact Ascending.mem_of_mem_insert fun name => name
  · rintro (rfl | member)
    · exact Ascending.mem_insert_self (fun name => name) other imports.modules
    · by_cases same : name = other
      · subst same
        exact Ascending.mem_insert_self (fun name => name) name imports.modules
      · exact Ascending.mem_insert_of_ne (fun name => name) member same

end Imports

end RobotBlocks.Code
