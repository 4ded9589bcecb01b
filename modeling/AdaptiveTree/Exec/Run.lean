import AdaptiveTree.Exec.Binary
import AdaptiveTree.Exec.ListFormat
import AdaptiveTree.Exec.Match
import AdaptiveTree.Exec.Write

/-!
# Evaluating nodes

The evaluation of a tree on the three channels. Each node is given the number of its first site, and
gives its children the numbers that follow.
-/

set_option autoImplicit false

namespace AdaptiveTree.Node

mutual

/-- The evaluation of a node whose sites are numbered from `base` on. -/
def runner (env : Env) : Node → Nat → Runner
  | .const _ v, _ => .ofGeneric (return v)
  | .read _ slot, _ => .ofGeneric (Exec.getLocal slot)
  | .write _ slot v, base => .write slot (v.runner env base)
  | .binary _ op l r, base =>
    Binary.runner op base (l.runner env (base + 1)) (r.runner env (base + 1 + l.sites)) env
  | .readElement _ t i, base =>
    Element.readRunner (t.runner env base) (i.runner env (base + t.sites))
  | .writeElement _ flags t i v, base =>
    Write.runner env
      { flags, site := base
        index := i.runner env (base + 1 + t.sites)
        value := v.runner env (base + 1 + t.sites + i.sites) }
      (t.runner env (base + 1))
  | .compound _ flags cache t i v, base =>
    Write.compoundRunner env
      { flags, site := base
        index := i.runner env (base + 1 + t.sites)
        value := v.runner env (base + 1 + t.sites + i.sites) }
      cache (t.runner env (base + 1))
  | .tagged m c, base => .tagged env m (c.runner env base)
  | .sequence _ ns, base => .sequence (runnerAll env ns base)
  | .patternLiteral _ p, _ => .ofGeneric (return .pattern p)
  | .patternExec _ p s a, base =>
    Match.runner (p.runner env base) (s.runner env (base + p.sites))
      (a.runner env (base + p.sites + s.sites))
  | .listFormat _ l o, base =>
    Locale.runner env (l.runner env base) (o.runner env (base + l.sites))

/-- The evaluations of several nodes whose sites are numbered from `base` on. -/
def runnerAll (env : Env) : List Node → Nat → List Runner
  | [], _ => []
  | n :: ns, base => n.runner env base :: runnerAll env ns (base + n.sites)

end

/-- The write at the root of a tree, without the evaluation of its target; the sites of the tree are
numbered from zero. -/
def rootParts? (env : Env) : Node → Option Write.Parts
  | .writeElement _ flags t i v | .compound _ flags _ t i v =>
    some
      { flags, site := 0
        index := i.runner env (1 + t.sites)
        value := v.runner env (1 + t.sites + i.sites) }
  | _ => none

/-- The slot that a compound write at the root keeps its index in. -/
def rootCache? : Node → Option Nat
  | .compound _ _ cache _ _ _ => cache
  | _ => none

/-- Evaluates an arithmetic node at the root with arbitrary values, whatever it has observed. -/
def rootGeneric? (env : Env) : Node → Option (Exec Value)
  | .binary _ op l r =>
    some (Binary.runGeneric op 0 (l.runner env 1) (r.runner env (1 + l.sites)))
  | _ => none

end AdaptiveTree.Node
