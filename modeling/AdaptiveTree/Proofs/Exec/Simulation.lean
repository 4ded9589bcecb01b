import AdaptiveTree.Exec.Channel

/-!
# Simulations between computations

`Sim P E Q x y`: started in machines that `P` relates, `x` and `y` either both give a result, and
then `Q` relates results and machines, or they fail with the same fault in machines that `E`
relates. Simulations follow the structure of computations (`Sim.bind`). The frequent case where one
relation `R` is kept throughout, and the results are related by `V`, is `Follows R V x y`.
-/

set_option autoImplicit false

namespace AdaptiveTree.Exec

/-- Computations obey the laws of monads. -/
instance : LawfulMonad Exec :=
  LawfulMonad.mk' Exec
    (fun x => by
      funext m
      show (x >>= pure) m = x m
      rw [bind_apply]
      rcases x m with ⟨_ | _, _⟩ <;> rfl)
    (fun _ _ => rfl)
    (fun x f g => by
      funext m
      simp only [bind_apply]
      rcases x m with ⟨_ | _, _⟩ <;> rfl)

/-- A relation between machines. -/
abbrev Link : Type := Machine → Machine → Prop

section

variable {α β : Type}

/-- Two outcomes: results and machines related by `Q`, or the same fault and machines related by
`E`. -/
inductive Related (E : Link) (Q : α → β → Link) :
    Except Fault α × Machine → Except Fault β × Machine → Prop
  | ok {a : α} {b : β} {m n : Machine} (h : Q a b m n) : Related E Q (.ok a, m) (.ok b, n)
  | error {e : Fault} {m n : Machine} (h : E m n) : Related E Q (.error e, m) (.error e, n)

/-- From machines related by `P`, the two computations have related outcomes. -/
def Sim (P E : Link) (Q : α → β → Link) (x : Exec α) (y : Exec β) : Prop :=
  ∀ ⦃m n : Machine⦄, P m n → Related E Q (x m) (y n)

/-- A simulation that keeps one relation between the machines. -/
def Follows (R : Link) (V : α → β → Prop) (x : Exec α) (y : Exec β) : Prop :=
  Sim R R (fun a b m n => V a b ∧ R m n) x y

end

variable {α β α' β' : Type} {P E : Link} {Q : α → β → Link} {Q' : α' → β' → Link}

theorem Related.mono {E' : Link} {Q' : α → β → Link} {r : Except Fault α × Machine}
    {s : Except Fault β × Machine} (h : Related E Q r s) (he : ∀ m n, E m n → E' m n)
    (hq : ∀ a b m n, Q a b m n → Q' a b m n) : Related E' Q' r s := by
  cases h with
  | ok h => exact .ok (hq _ _ _ _ h)
  | error h => exact .error (he _ _ h)

theorem Related.symm {r : Except Fault α × Machine} {s : Except Fault β × Machine}
    (h : Related E Q r s) : Related (fun m n => E n m) (fun b a m n => Q a b n m) s r := by
  cases h with
  | ok h => exact .ok h
  | error h => exact .error h

theorem Related.trans {γ : Type} {E' E'' : Link} {Q' : β → γ → Link} {Q'' : α → γ → Link}
    {r : Except Fault α × Machine} {s : Except Fault β × Machine} {t : Except Fault γ × Machine}
    (h : Related E Q r s) (h' : Related E' Q' s t) (he : ∀ m n p, E m n → E' n p → E'' m p)
    (hq : ∀ a b c m n p, Q a b m n → Q' b c n p → Q'' a c m p) : Related E'' Q'' r t := by
  cases h with
  | ok h => cases h' with | ok h' => exact .ok (hq _ _ _ _ _ _ h h')
  | error h => cases h' with | error h' => exact .error (he _ _ _ h h')

theorem Sim.bind {x : Exec α} {y : Exec β} {f : α → Exec α'} {k : β → Exec β'}
    (hx : Sim P E Q x y) (hf : ∀ a b, Sim (Q a b) E Q' (f a) (k b)) :
    Sim P E Q' (x >>= f) (y >>= k) := by
  intro m n hp
  have h := hx hp
  rw [bind_apply, bind_apply]
  generalize x m = r at h
  generalize y n = s at h
  cases h with
  | ok h => exact hf _ _ h
  | error h => exact .error h

/-- A step that only the first computation makes. -/
theorem Sim.step {γ : Type} {S : γ → Link} {x : Exec γ} {f : γ → Exec α} {y : Exec β}
    (hx : ∀ m n, P m n → ∃ c m', x m = (.ok c, m') ∧ S c m' n)
    (hf : ∀ c, Sim (S c) E Q (f c) y) : Sim P E Q (x >>= f) y := by
  intro m n hp
  obtain ⟨c, m', hrun, hs⟩ := hx m n hp
  rw [bind_ok hrun]
  exact hf c hs

section

variable {R : Link} {V : α → β → Prop} {W : α' → β' → Prop}

theorem Follows.bind {x : Exec α} {y : Exec β} {f : α → Exec α'} {k : β → Exec β'}
    (hx : Follows R V x y) (hf : ∀ a b, V a b → Follows R W (f a) (k b)) :
    Follows R W (x >>= f) (y >>= k) :=
  Sim.bind hx fun a b _ _ h => hf a b h.1 h.2

theorem Follows.bind_eq {x y : Exec α} {f : α → Exec α'} {k : α → Exec β'}
    (hx : Follows R Eq x y) (hf : ∀ a, Follows R W (f a) (k a)) :
    Follows R W (x >>= f) (y >>= k) :=
  hx.bind fun a _ hab => hab ▸ hf a

theorem Follows.pure {a : α} {b : β} (h : V a b) : Follows R V (pure a) (pure b) :=
  fun _ _ hr => .ok ⟨h, hr⟩

theorem Follows.fail (e : Fault) : Follows R V (fail e) (fail e) :=
  fun _ _ hr => .error hr

/-- The first computation may change its result afterwards. -/
theorem Follows.map {γ : Type} {x : Exec α} {y : Exec β} {f : α → γ} {U : γ → β → Prop}
    (h : Follows R V x y) (hf : ∀ a b, V a b → U (f a) b) :
    Follows R U (x >>= fun a => Pure.pure (f a)) y := by
  intro m n hr
  have hxy := h hr
  rw [bind_apply]
  generalize x m = r at hxy
  generalize y n = s at hxy
  cases hxy with
  | ok hab => exact .ok ⟨hf _ _ hab.1, hab.2⟩
  | error hm => exact .error hm

/-- A simulation that keeps a relation, as a step of one that does not. -/
theorem Follows.sim {x : Exec α} {y : Exec β} (h : Follows R V x y) (he : ∀ m n, R m n → E m n) :
    Sim R E (fun a b m n => V a b ∧ R m n) x y :=
  fun _ _ hr => (h hr).mono he fun _ _ _ _ h => h

theorem Follows.mono {V' : α → β → Prop} {x : Exec α} {y : Exec β} (h : Follows R V x y)
    (hv : ∀ a b, V a b → V' a b) : Follows R V' x y :=
  fun _ _ hr => (h hr).mono (fun _ _ h => h) fun a b _ _ h => ⟨hv a b h.1, h.2⟩

end

end AdaptiveTree.Exec
