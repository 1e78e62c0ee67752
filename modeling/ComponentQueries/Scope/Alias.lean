import ComponentQueries.Scope.Table

/-! Declarations that give another name to a declared one. -/
namespace ComponentQueries.ScopeTable

/-- How many declarations are looked at in a chain of aliases. -/
def aliasHopLimit : Nat := 16

def aliasOf? (binding : Binding) : Option Cursor :=
  if binding.kind = .single then
    binding.value?.filter fun value => value.kind == .identifier
  else none

/-- Follows a chain of aliases to a binding that is none, looking at `hops`
declarations at most. -/
def followWithin (table : ScopeTable) (tree : SyntaxTree) :
    (hops : Nat) → Option Binding → Option Binding
  | 0, _ => none
  | _ + 1, none => none
  | hops + 1, some binding =>
    match aliasOf? binding with
    | none => some binding
    | some target =>
      followWithin table tree hops (table.resolve? (tree.textOf target) binding.site)

/-- Follows a chain of aliases to a binding that is none. -/
def followAliases (table : ScopeTable) (tree : SyntaxTree) (binding : Option Binding) :
    Option Binding :=
  table.followWithin tree aliasHopLimit binding

end ComponentQueries.ScopeTable
