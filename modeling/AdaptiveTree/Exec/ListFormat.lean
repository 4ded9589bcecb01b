import AdaptiveTree.Exec.Channel

/-!
# Evaluating list formats

A list format is made with the locales of the environment and gets an identity of its own.
-/

set_option autoImplicit false

namespace AdaptiveTree

namespace Locale

/-- Gives a list format as a value with an identity of its own. -/
def allocate (f : ListFormat) : Exec Value := fun m =>
  (.ok (.listFormat ⟨m.formats, f⟩), { m with formats := m.formats + 1 })

/-- The evaluation of a list format. -/
def runner (env : Env) (locales options : Runner) : Runner :=
  .ofGeneric do
    let l ← locales.generic
    let o ← options.generic
    let f ← fun m => (ListFormat.make m.heap env.locales l o, m)
    allocate f

end Locale

end AdaptiveTree
