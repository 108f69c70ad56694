import NodeCanvas.Json.Basic
/-!
# The shared namespace

All debug sessions run in one interpreter, so they share one set of variables: what any step writes
is what every session sees next. Each binding remembers the session that wrote it and when, as the
number of that write.
-/

namespace NodeCanvas

structure Binding where
  value : Json
  session : String
  writeNumber : Nat
  deriving BEq, Inhabited

/-- Without bindings there is none to count. -/
theorem Binding.counted_empty : ∀ entry ∈ (∅ : Table Binding).entries, entry.2.writeNumber ≤ 0 :=
  fun _ mem => absurd mem List.not_mem_nil

structure SharedNamespace where
  bindings : Table Binding := ∅
  /-- How many writes there have been. -/
  writes : Nat := 0
  /-- No binding comes from a write that has not been. -/
  counted : ∀ entry ∈ bindings.entries, entry.2.writeNumber ≤ writes := by
    exact Binding.counted_empty

instance : Inhabited SharedNamespace := ⟨{}⟩

namespace SharedNamespace

/-- How many bindings are shown. -/
def visibleLimit : Nat := 20

/-- Bind one name, over whatever it was bound to. -/
def write (ns : SharedNamespace) (session name : String) (value : Json) : SharedNamespace where
  bindings := ns.bindings.insert name ⟨value, session, ns.writes + 1⟩
  writes := ns.writes + 1
  counted := by
    intro entry mem
    rcases Table.mem_insertEntry mem with rfl | mem
    · exact Nat.le_refl _
    · exact Nat.le_succ_of_le (ns.counted entry mem)

/-- Bind all variables of a step, in the order of their names. -/
def publish (ns : SharedNamespace) (session : String) (written : Table Json) : SharedNamespace :=
  written.entries.foldl (fun ns entry => ns.write session entry.1 entry.2) ns

def get? (ns : SharedNamespace) (name : String) : Option Binding := ns.bindings.get? name

/-- Names that start with an underscore are not shown. -/
def isPublic (name : String) : Bool := name.toList.head? != some '_'

/-- The public bindings written last, the latest first. -/
def visible (ns : SharedNamespace) : List (String × Binding) :=
  ((ns.bindings.entries.filter fun entry => isPublic entry.1).mergeSort
    fun a b => b.2.writeNumber ≤ a.2.writeNumber).take visibleLimit

def clear (ns : SharedNamespace) : SharedNamespace where
  bindings := ∅
  writes := ns.writes
  counted := fun _ mem => absurd mem List.not_mem_nil

end SharedNamespace

end NodeCanvas
