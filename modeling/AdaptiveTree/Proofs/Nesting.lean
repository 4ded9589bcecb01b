import AdaptiveTree.Proofs.Children
import AdaptiveTree.Proofs.Exec.Script

/-!
# Events are well bracketed

The events of a run nest as the reporting nodes of the tree do. `Node.Reports` says which events the
evaluation of a node reports in terms of its children: a reporting node puts those of its child
between the event that it is entered and the one that tells what it gives to the node above; any
other node relays those of the children that it evaluates, one after the other. `Nested` says of the
events alone that they are brackets: each node that is entered is left once, with a value unless the
run fails, and a run that fails ends with the failures of the nodes that are open at that point, the
innermost first. Both hold of every run (`Node.run_bracketed`).

What a run adds to the trace is put together from what its parts add (`Adds`), along the script of
each node.
-/

set_option autoImplicit false

namespace AdaptiveTree

open Exec

/-! ## Brackets -/

namespace Event

/-- Whether the event tells of a fault. -/
def isFail : Event → Bool
  | .fail .. => true
  | _ => false

/-- The nodes that are open after an event, if `opened` were before, the innermost first; none if
the event closes a node that is not the innermost open one. -/
def follow (opened : List Meta) : Event → Option (List Meta)
  | .enter m => some (m :: opened)
  | .leave m _ | .fail m _ =>
    match opened with
    | [] => none
    | inner :: rest => if m = inner then some rest else none

end Event

open Event (follow closing)

/-- The nodes that are open after some events, if `opened` were before, the innermost first; none if
some event closes a node that is not the innermost open one. -/
def openAfter (opened : List Meta) (es : List Event) : Option (List Meta) :=
  es.foldlM follow opened

@[simp] theorem openAfter_nil (opened : List Meta) : openAfter opened [] = some opened := rfl

theorem openAfter_cons (opened : List Meta) (e : Event) (es : List Event) :
    openAfter opened (e :: es) = (follow opened e).bind fun now => openAfter now es :=
  List.foldlM_cons

theorem openAfter_append (opened : List Meta) (es es' : List Event) :
    openAfter opened (es ++ es') = (openAfter opened es).bind fun now => openAfter now es' :=
  List.foldlM_append

/-- Nodes that were open before stay open below. -/
theorem openAfter_below {opened now : List Meta} {es : List Event}
    (h : openAfter opened es = some now) (below : List Meta) :
    openAfter (opened ++ below) es = some (now ++ below) := by
  induction es generalizing opened with
  | nil =>
    cases h
    rfl
  | cons e es ih =>
    rw [openAfter_cons] at h ⊢
    obtain ⟨next, hnext, h⟩ := Option.bind_eq_some_iff.1 h
    have hfollow : follow (opened ++ below) e = some (next ++ below) := by
      cases e <;> cases opened <;> grind [follow]
    rw [hfollow]
    exact ih h

/-- All open nodes can be closed by failing, the innermost first. -/
theorem openAfter_fails (f : Fault) (opened below : List Meta) :
    openAfter (opened ++ below) (opened.map fun m => .fail m f) = some below := by
  induction opened with
  | nil => rfl
  | cons m opened ih =>
    rw [List.map_cons, openAfter_cons]
    simpa [follow] using ih

/-- The fault with which an evaluation ended, if it did. -/
def faultOf {α : Type} : Except Fault α → Option Fault
  | .ok _ => none
  | .error f => some f

/-- The events of an evaluation that ended in this way are brackets. When it gave a result, every
node that is entered is left with a value. When it failed, the nodes that were open at that point
are closed by failing with the same fault, the innermost first, and nothing comes after. -/
def Nested : Option Fault → List Event → Prop
  | none, es => openAfter [] es = some [] ∧ ∀ e ∈ es, e.isFail = false
  | some f, es => ∃ (before : List Event) (opened : List Meta),
    es = before ++ opened.map (fun m => .fail m f) ∧ openAfter [] before = some opened ∧
      ∀ e ∈ before, e.isFail = false

theorem nested_nil (stop : Option Fault) : Nested stop [] := by
  cases stop with
  | none => exact ⟨rfl, by simp⟩
  | some f => exact ⟨[], [], rfl, rfl, by simp⟩

/-- Whatever the outcome, each node that is entered is closed once. -/
theorem Nested.closed {stop : Option Fault} {es : List Event} (h : Nested stop es) :
    openAfter [] es = some [] := by
  cases stop with
  | none => exact h.1
  | some f =>
    obtain ⟨before, opened, rfl, hbefore, -⟩ := h
    have hfails := openAfter_fails f opened []
    rw [List.append_nil] at hfails
    rw [openAfter_append, hbefore]
    exact hfails

theorem Nested.append {stop : Option Fault} {es es' : List Event} (h : Nested none es)
    (h' : Nested stop es') : Nested stop (es ++ es') := by
  have hclosed : ∀ rest, openAfter [] (es ++ rest) = openAfter [] rest := fun rest => by
    rw [openAfter_append, h.1]
    rfl
  have hfail : ∀ {rest : List Event}, (∀ e ∈ rest, e.isFail = false) →
      ∀ e ∈ es ++ rest, e.isFail = false := fun {rest} hrest e he =>
    (List.mem_append.1 he).elim (h.2 e) (hrest e)
  cases stop with
  | none => exact ⟨(hclosed es').trans h'.1, hfail h'.2⟩
  | some f =>
    obtain ⟨before, opened, rfl, hbefore, hno⟩ := h'
    exact ⟨es ++ before, opened, (List.append_assoc _ _ _).symm, (hclosed before).trans hbefore,
      hfail hno⟩

/-- The events of a reporting node around those of its child. -/
theorem Nested.report {α : Type} {outcome : Except Fault α} {es : List Event}
    (h : Nested (faultOf outcome) es) (about : Meta) (value : α → Value) :
    Nested (faultOf outcome) (.enter about :: (es ++ [closing about (outcome.map value)])) := by
  cases outcome with
  | ok a =>
    have hinner : openAfter [about] es = some [about] := openAfter_below h.1 [about]
    refine ⟨?_, fun e he => ?_⟩
    · rw [openAfter_cons]
      simp [follow, closing, Except.map, openAfter_append, hinner, openAfter_cons]
    · rw [List.mem_cons, List.mem_append, List.mem_singleton] at he
      obtain rfl | he | rfl := he
      · rfl
      · exact h.2 e he
      · rfl
  | error f =>
    obtain ⟨before, opened, rfl, hbefore, hno⟩ := h
    refine ⟨.enter about :: before, opened ++ [about], ?_, ?_, fun e he => ?_⟩
    · simp [closing, Except.map]
    · exact openAfter_below hbefore [about]
    · obtain rfl | he := List.mem_cons.1 he
      · rfl
      · exact hno e he

/-! ## What computations add to the trace -/

/-- The computation adds these events to the trace, and they are brackets. -/
structure Adds {α : Type} (x : Exec α) (m : Machine) (es : List Event) : Prop where
  trace : (x m).2.trace = m.trace ++ es
  nested : Nested (faultOf (x m).1) es

section

variable {α β : Type} {x : Exec α} {f : α → Exec β} {m m' : Machine} {a : α} {e : Fault}
  {es es' : List Event}

theorem Blind.adds (h : Blind x) (m : Machine) : Adds x m [] :=
  ⟨by rw [(h m m.trace).2, List.append_nil], nested_nil _⟩

theorem Adds.bind_ok (hx : Adds x m es) (hrun : x m = (.ok a, m')) (hf : Adds (f a) m' es') :
    Adds (x >>= f) m (es ++ es') := by
  obtain ⟨htrace, hnested⟩ := hx
  rw [hrun] at htrace hnested
  constructor
  · rw [Exec.bind_ok hrun, hf.trace, show m'.trace = _ from htrace, List.append_assoc]
  · rw [Exec.bind_ok hrun]
    exact Nested.append hnested hf.nested

theorem Adds.bind_error (hx : Adds x m es) (hrun : x m = (.error e, m')) :
    Adds (x >>= f) m es := by
  obtain ⟨htrace, hnested⟩ := hx
  rw [hrun] at htrace hnested
  constructor
  · rw [Exec.bind_error hrun]
    exact htrace
  · rw [Exec.bind_error hrun]
    exact hnested

theorem Adds.reporting {about : Meta} (hx : Adds x { m with trace := m.trace ++ [.enter about] } es)
    (value : α → Value) :
    Adds (reporting about value x) m
      (.enter about :: (es ++ [closing about ((Exec.reporting about value x m).1.map value)])) := by
  constructor
  · simp [reporting_apply, hx.trace]
  · simpa only [reporting_apply] using hx.nested.report about value

end

/-! ## Which events a node reports -/

mutual

/-- The evaluation of the node whose sites are numbered from `base` on reports these events. A
reporting node tells that it is entered, lets its child report, and tells in what way its own
evaluation ended: with the generic form of the result that it gives to the node above, or with the
fault. Another node relays what its children report. -/
inductive Node.Reports (env : Env) : Node → Nat → Channel → Machine → List Event → Prop
  | tagged {about : Meta} {n : Node} {base : Nat} {c : Channel} {m : Machine} {es : List Event}
    (inner : Node.Reports env n base c { m with trace := m.trace ++ [.enter about] } es) :
    Node.Reports env (.tagged about n) base c m (.enter about :: (es ++
      [closing about ((((Node.tagged about n).runner env base).on c m).1.map c.value)]))
  | other {n : Node} {base : Nat} {c : Channel} {m : Machine} {es : List Event}
    (h : n.isTagged = false)
    (parts : Relays env (n.placedChildren base) ((n.runner env base).on c) m es) :
    Node.Reports env n base c m es

/-- The computation reports these events because it evaluates the nodes in their order, until one of
them or a step in between fails. -/
inductive Relays (env : Env) :
    List (Node × Nat) → {α : Type} → Exec α → Machine → List Event → Prop
  | own {α : Type} {x : Exec α} {m : Machine} (h : Blind x) : Relays env [] x m []
  | stopped {ps : List (Node × Nat)} {α β : Type} {x : Exec α} {f : α → Exec β} {m m' : Machine}
    {e : Fault} (h : Blind x) (hrun : x m = (.error e, m')) : Relays env ps (x >>= f) m []
  | after {ps : List (Node × Nat)} {α β : Type} {x : Exec α} {f : α → Exec β} {m m' : Machine}
    {a : α} {es : List Event} (h : Blind x) (hrun : x m = (.ok a, m'))
    (rest : Relays env ps (f a) m' es) : Relays env ps (x >>= f) m es
  | failed {p : Node × Nat} {ps : List (Node × Nat)} {β : Type} {c : Channel}
    {f : c.Result → Exec β} {m m' : Machine} {e : Fault} {es : List Event}
    (child : Node.Reports env p.1 p.2 c m es)
    (hrun : (Node.placedRunner env p).on c m = (.error e, m')) :
    Relays env (p :: ps) ((Node.placedRunner env p).on c >>= f) m es
  | visit {p : Node × Nat} {ps : List (Node × Nat)} {β : Type} {c : Channel}
    {f : c.Result → Exec β} {m m' : Machine} {a : c.Result} {es es' : List Event}
    (child : Node.Reports env p.1 p.2 c m es)
    (hrun : (Node.placedRunner env p).on c m = (.ok a, m'))
    (rest : Relays env ps (f a) m' es') :
    Relays env (p :: ps) ((Node.placedRunner env p).on c >>= f) m (es ++ es')

end

/-- If the parts report brackets, a script of them relays brackets. -/
theorem Script.relays {env : Env} {ps : List (Node × Nat)} {α : Type} {x : Exec α}
    (hx : Script (Node.placedRunner env) ps x)
    (hparts : ∀ p ∈ ps, ∀ (c : Channel) (m : Machine), ∃ es,
      Adds ((Node.placedRunner env p).on c) m es ∧ p.1.Reports env p.2 c m es)
    (m : Machine) : ∃ es, Adds x m es ∧ Relays env ps x m es := by
  induction hx generalizing m with
  | own h => exact ⟨[], h.adds m, .own h⟩
  | @after ps α β x f h _ ih =>
    rcases hrun : x m with ⟨e | a, m'⟩
    · exact ⟨[], (h.adds m).bind_error hrun, .stopped h hrun⟩
    · obtain ⟨es, hadds, hrest⟩ := ih a hparts m'
      exact ⟨es, (h.adds m).bind_ok hrun hadds, .after h hrun hrest⟩
  | @visit p ps β c f _ ih =>
    obtain ⟨es, hadds, hchild⟩ := hparts p List.mem_cons_self c m
    rcases hrun : (Node.placedRunner env p).on c m with ⟨e | a, m'⟩
    · exact ⟨es, hadds.bind_error hrun, .failed hchild hrun⟩
    · obtain ⟨es', hadds', hrest⟩ := ih a (fun q hq => hparts q (List.mem_cons_of_mem p hq)) m'
      exact ⟨es ++ es', hadds.bind_ok hrun hadds', .visit hchild hrun hrest⟩

namespace Node

/-- On each channel a reporting node reports the evaluation of its child on that channel. -/
theorem on_tagged {env : Env} (hrec : env.recording = true) (about : Meta) (n : Node) (base : Nat)
    (c : Channel) :
    ((Node.tagged about n).runner env base).on c
      = reporting about c.value ((n.runner env base).on c) := by
  simp only [runner, Runner.tagged, hrec]
  cases c <;> rfl

/-- What the evaluation of a node adds to the trace is what it reports. -/
theorem reports {env : Env} (hrec : env.recording = true) (n : Node) (base : Nat) (c : Channel)
    (m : Machine) :
    ∃ es, Adds ((n.runner env base).on c) m es ∧ n.Reports env base c m es := by
  induction n using induction_children generalizing base c m with
  | node n ih =>
    cases htagged : n.isTagged with
    | true =>
      obtain ⟨about, child, rfl⟩ : ∃ about child, n = .tagged about child := by
        cases n <;> simp_all [isTagged]
      obtain ⟨es, hadds, hreports⟩ := ih child List.mem_cons_self base c
        { m with trace := m.trace ++ [.enter about] }
      refine ⟨_, ?_, .tagged hreports⟩
      rw [on_tagged hrec]
      exact hadds.reporting c.value
    | false =>
      obtain ⟨es, hadds, hrelays⟩ := (runner_visits env htagged base c).relays
        (fun p hp => ih p.1 (mem_of_mem_placed hp) p.2) m
      exact ⟨es, hadds, .other htagged hrelays⟩

/-- When events are recorded, the evaluation of a node on any channel and from any state adds to the
trace what the reporting nodes below and including it report, and these events are brackets: each
node that is entered is closed once, by a value unless the evaluation fails; if it fails, the nodes
that are open at that point are closed with the same fault, the innermost first, and no event comes
after them. -/
theorem run_bracketed (n : Node) {env : Env} (hrec : env.recording = true) (base : Nat)
    (c : Channel) (m : Machine) :
    ∃ es, ((n.runner env base).on c m).2.trace = m.trace ++ es ∧ n.Reports env base c m es ∧
      openAfter [] es = some [] ∧ Nested (faultOf ((n.runner env base).on c m).1) es := by
  obtain ⟨es, ⟨htrace, hnested⟩, hreports⟩ := reports hrec n base c m
  exact ⟨es, htrace, hreports, hnested.closed, hnested⟩

/-- A sum whose left operand gives an integer and whose right one fails, on the integer channel. -/
theorem run_bracketed_failing_operand :
    let about (i : UInt32) : Meta := { span := some ⟨i, 1⟩ }
    let absent : Node := .readElement {} (.const {} .undefined) (.const {} (.int 0))
    let sum : Node := .tagged (about 0) <|
      .binary {} .add (.tagged (about 1) (.const {} (.int 1))) (.tagged (about 2) absent)
    let env : Env := ⟨true, true, ⟨"en", []⟩⟩
    let m : Machine := ⟨.empty, .ofSize 0, .empty, 0, [], 0⟩
    let fault : Fault := .unreadable "undefined" (.index 0)
    let result := (sum.runner env 0).on .int m
    (result.2.trace = [.enter (about 0), .enter (about 1), .leave (about 1) (.int 1),
        .enter (about 2), .fail (about 2) fault, .fail (about 0) fault] ∧
      faultOf result.1 = some fault) ∧
      env.recording = true ∧
      ∃ es, result.2.trace = m.trace ++ es ∧ sum.Reports env 0 .int m es ∧
        openAfter [] es = some [] ∧ Nested (faultOf result.1) es := by
  intro about absent sum env m fault result
  exact ⟨⟨rfl, rfl⟩, rfl, run_bracketed sum (show env.recording = true from rfl) 0 .int m⟩

end Node

end AdaptiveTree
