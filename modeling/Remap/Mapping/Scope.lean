/-!
# The stack of open passes

Each pass of a mapper puts a label for its source on a stack and takes it off at the end, so
that a mapper that runs inside another one can tell how deep it stands. Computations that may
run passes thread the stack as their state.
-/

namespace Remap

/-- The labels of the open passes, the innermost first. -/
abbrev Scope := List String

/-- A computation that may open passes. -/
abbrev Scoped := StateM Scope

namespace Scope

/-- One more open pass. -/
def enter (label : String) (scope : Scope) : Scope := label :: scope

/-- The innermost pass closed; nothing happens when none is open. -/
def leave (scope : Scope) : Scope := scope.tail

/-- The number of open passes. -/
def depth (scope : Scope) : Nat := scope.length

/-- The label of the innermost pass. -/
def current? (scope : Scope) : Option String := scope.head?

/-- The indentation of messages: two blanks for each pass around the innermost one. -/
def indentation (scope : Scope) : String :=
  String.ofList (List.replicate (2 * (scope.depth - 1)) ' ')

@[simp] theorem leave_enter (label : String) (scope : Scope) :
    (scope.enter label).leave = scope := rfl

end Scope

namespace Scoped

variable {α β : Type}

@[simp] theorem run_pure (a : α) (scope : Scope) : (pure a : Scoped α).run scope = (a, scope) := rfl

@[simp] theorem run_bind (body : Scoped α) (next : α → Scoped β) (scope : Scope) :
    (body >>= next).run scope = (next (body.run scope).1).run (body.run scope).2 := rfl

end Scoped

/-- A computation inside one more pass, which is closed when it is done. -/
def Scoped.within {α : Type} (label : String) (body : Scoped α) : Scoped α := do
  modify (Scope.enter label)
  let a ← body
  modify Scope.leave
  return a

@[simp] theorem Scoped.run_within {α : Type} (label : String) (body : Scoped α) (scope : Scope) :
    (Scoped.within label body).run scope =
      ((body.run (scope.enter label)).1, (body.run (scope.enter label)).2.leave) := rfl

end Remap
