import UsageMeter.Command.Execution

/-!
What commands give. Nobody who counts changes a value on its way to the caller or keeps an exception
from getting there. Only an exception whose text cannot be read gives way, where an execution ends,
to the one that its text raises.
-/
namespace UsageMeter

/-- What an exception becomes when it leaves an execution. -/
def Raised.leaving (e : Raised) : Raised :=
  e.whenRead.whenRead

theorem Raised.leaving_of_readable {e : Raised} (h : e.readable = true) : e.leaving = e := by
  cases e with
  | saying kind text ordinary => rfl
  | mute kind ordinary onText => simp [readable] at h

/-- What an interceptor passes on: an error before anything happens, else what the command gives. -/
def Command.unlessRefused (c : Command) (result : Outcome) : Outcome :=
  match c.enter with
  | .error e => .error e
  | .ok _ => result

mutual

/-- What using a command gives if `leave` says what exceptions become when they leave executions. -/
def Command.gives (leave : Raised → Raised) (c : Command) (use : Use) (args : List Value)
    (named : List (String × Value)) : Outcome :=
  match c with
  | .function _ _ body => body.gives leave args named
  | .method _ body => body.gives leave args named
  | .preset body => body.gives leave args named
  | .coroutine _ body =>
    if use = .await then (body.gives leave args named).mapError Raised.leavingCoroutine
    else .ok .pending
  | .builtin b => ((b.apply args !named.isEmpty).mapError typeError).map Reply.value
  | .object className nature execute call body =>
    let slot := slotFor use nature execute call
    if slot = .body then body.gives leave args named else slot.otherwise className
  | .classItself name =>
    if args.isEmpty && named.isEmpty then .ok (.instanceOf name)
    else .error (typeError (shownClass name ++ "() takes no arguments"))
  | .value v => .error (notCallable v.kind)
  | .counted _ explicit target =>
    match startCounted explicit target use with
    | .error result => result
    | .ok _ =>
      (target.gives leave (if use = .await then .await else .call) args named).mapError leave

/-- What running a body gives: the first exception ends it. -/
def Body.gives (leave : Raised → Raised) (b : Body) (args : List Value)
    (named : List (String × Value)) : Outcome :=
  match b with
  | .finish e => e.outcome args named
  | .execute _ c cargs rest =>
    match c.unlessRefused ((c.gives leave .execute cargs []).mapError leave) with
    | .error e => .error e
    | .ok _ => rest.gives leave args named
  | .call c rest =>
    match c.gives leave .call [] [] with
    | .error e => .error e
    | .ok _ => rest.gives leave args named
  | .await c rest =>
    match c.gives leave .await [] [] with
    | .error e => .error e
    | .ok _ => rest.gives leave args named

end

/-- What using a command gives when nothing is counted. -/
def Command.bare (c : Command) (use : Use) (args : List Value) (named : List (String × Value)) :
    Outcome :=
  c.gives id use args named

/-- What using a command gives when the executions in it are counted. -/
def Command.outcome (c : Command) (use : Use) (args : List Value)
    (named : List (String × Value)) : Outcome :=
  c.gives Raised.leaving use args named

/-- What running a body gives when the executions in it are counted. -/
def Body.outcome (b : Body) (args : List Value) (named : List (String × Value)) : Outcome :=
  b.gives Raised.leaving args named

/-! ## Exceptions that can be read -/

def Ending.readable : Ending → Bool
  | .raises e => e.readable
  | _ => true

mutual

/-- The texts of all exceptions that the bodies in a command raise can be read. -/
def Command.readable : Command → Bool
  | .function _ _ body => body.readable
  | .coroutine _ body => body.readable
  | .method _ body => body.readable
  | .preset body => body.readable
  | .object _ _ _ _ body => body.readable
  | .counted _ _ target => target.readable
  | .builtin _ => true
  | .classItself _ => true
  | .value _ => true

/-- The texts of all exceptions that the bodies in a body raise can be read. -/
def Body.readable : Body → Bool
  | .finish e => e.readable
  | .execute _ c _ rest => c.readable && rest.readable
  | .call c rest => c.readable && rest.readable
  | .await c rest => c.readable && rest.readable

end

/-- Two outcomes that differ at most in the exception, and not even there if `same` holds. -/
inductive Outcome.Alike (same : Prop) : Outcome → Outcome → Prop where
  | returned (reply : Reply) : Alike same (.ok reply) (.ok reply)
  | raised {e e' : Raised} (h : same → e' = e ∧ e.readable = true) :
    Alike same (.error e) (.error e')

namespace Outcome.Alike
variable {same other : Prop} {r r' : Outcome}

theorem isOk_eq (h : Alike same r r') : r'.isOk = r.isOk := by
  cases h <;> rfl

theorem eq (h : Alike same r r') (hs : same) : r' = r := by
  cases h with
  | returned reply => rfl
  | raised h => rw [(h hs).1]

theorem ok_iff (h : Alike same r r') (reply : Reply) : r' = .ok reply ↔ r = .ok reply := by
  cases h with
  | returned reply => exact Iff.rfl
  | raised h => exact iff_of_false (by simp) (by simp)

theorem imp (h : Alike same r r') (hs : other → same) : Alike other r r' := by
  cases h with
  | returned reply => exact returned reply
  | raised h => exact raised fun ho => h (hs ho)

theorem mapError (h : Alike same r r') {f g : Raised → Raised}
    (hfg : ∀ e : Raised, e.readable = true → g e = f e ∧ (f e).readable = true) :
    Alike same (r.mapError f) (r'.mapError g) := by
  cases h with
  | returned reply => exact returned reply
  | raised h =>
    refine raised fun hs => ?_
    obtain ⟨rfl, hread⟩ := h hs
    exact hfg _ hread

theorem refl (r : Outcome) (h : ∀ e, r = .error e → e.readable = true) : Alike same r r := by
  cases r with
  | ok reply => exact returned reply
  | error e => exact raised fun _ => ⟨rfl, h e rfl⟩

/-- What follows a part of a body is reached, or not, after either of two outcomes of the part. -/
theorem followed {rest rest' : Outcome} : Alike same r r' → Alike same rest rest' →
    Alike same (match r with
      | .error e => .error e
      | .ok _ => rest) (match r' with
      | .error e => .error e
      | .ok _ => rest') := by
  intro h hrest
  cases h with
  | returned reply => exact hrest
  | raised h => exact raised h

theorem unlessRefused (h : Alike same r r') (c : Command)
    (hc : ∀ e, c.enter = .error e → e.readable = true) :
    Alike same (c.unlessRefused r) (c.unlessRefused r') := by
  rw [Command.unlessRefused, Command.unlessRefused]
  cases hr : c.enter with
  | error e => exact raised fun _ => ⟨rfl, hc e hr⟩
  | ok name => exact h

end Outcome.Alike

theorem Raised.readable_leavingCoroutine {e : Raised} (h : e.readable = true) :
    e.leavingCoroutine.readable = true := by
  rw [leavingCoroutine]
  split
  · rfl
  · exact h

theorem Command.readable_of_named {c : Command} {e : Raised} (h : c.named = .error e) :
    e.readable = true := by
  have hq : c.qualifiedName = .error e := by
    rw [named] at h
    cases hq : c.qualifiedName with
    | error e' =>
      rw [hq] at h
      cases h
      rfl
    | ok name =>
      rw [hq] at h
      cases h
  rw [qualifiedName] at hq
  split at hq
  · cases hq
  · split at hq
    · split at hq
      · cases hq
      · cases hq
        rfl
    · cases hq

theorem readable_of_resolvedName {explicit : Option String} {target : Command} {e : Raised}
    (h : resolvedName explicit target = .error e) : e.readable = true := by
  unfold resolvedName at h
  split at h
  · exact Command.readable_of_named h
  · cases h
  · exact Command.readable_of_named h

theorem Command.readable_of_made (c : Command) {e : Raised} (h : c.made = .error e) :
    e.readable = true := by
  cases c with
  | counted i explicit target =>
    rw [made] at h
    cases ht : target.made with
    | error e' =>
      rw [ht] at h
      cases h
      exact target.readable_of_made ht
    | ok _ =>
      rw [ht] at h
      cases hn : resolvedName explicit target with
      | error e' =>
        simp only [Except.bind, hn, Except.map] at h
        cases h
        exact readable_of_resolvedName hn
      | ok name =>
        simp only [Except.bind, hn, Except.map] at h
        cases h
  | _ => cases h

theorem Command.readable_of_enter {c : Command} {e : Raised} (h : c.enter = .error e) :
    e.readable = true := by
  rw [enter] at h
  split at h
  · next hm =>
    cases h
    exact c.readable_of_made hm
  · split at h
    · cases h
      rfl
    · exact readable_of_named h

theorem readable_of_startCounted {explicit : Option String} {target : Command} {use : Use}
    {e : Raised} (h : startCounted explicit target use = .error (.error e)) :
    e.readable = true := by
  rw [startCounted] at h
  split at h
  · next hw =>
    cases h
    cases hm : target.made with
    | error e' =>
      rw [hm] at hw
      cases hw
      exact target.readable_of_made hm
    | ok _ =>
      rw [hm] at hw
      exact readable_of_resolvedName hw
  · split at h <;> cases h

section Leaving
variable {f g : Raised → Raised}
  (hf : ∀ e : Raised, e.readable = true → f e = e) (hg : ∀ e : Raised, e.readable = true → g e = e)
include hf hg

theorem keeps_readable (e : Raised) (h : e.readable = true) :
    g e = f e ∧ (f e).readable = true := by
  rw [hf e h, hg e h]
  exact ⟨rfl, h⟩

mutual

/-- By induction on the tree: an exception that is raised in it can be read if all in it can, and so
it passes the ends of executions as it is. -/
theorem Command.gives_alike (c : Command) (use : Use) (args : List Value)
    (named : List (String × Value)) :
    Outcome.Alike (c.readable = true) (c.gives f use args named) (c.gives g use args named) := by
  cases c with
  | function _ _ body | method _ body | preset body =>
    rw [Command.gives, Command.gives, Command.readable]
    exact body.gives_alike args named
  | coroutine _ body =>
    rw [Command.gives, Command.gives, Command.readable]
    by_cases hu : use = .await
    · rw [if_pos hu, if_pos hu]
      refine (body.gives_alike args named).mapError fun e he => ?_
      exact ⟨rfl, Raised.readable_leavingCoroutine he⟩
    · rw [if_neg hu, if_neg hu]
      exact .returned _
  | object className nature execute call body =>
    rw [Command.gives, Command.gives, Command.readable]
    by_cases hslot : slotFor use nature execute call = .body
    · simp only [if_pos hslot]
      exact body.gives_alike args named
    · simp only [if_neg hslot]
      refine .refl _ fun e he => ?_
      cases hs : slotFor use nature execute call <;> rw [hs] at he <;> cases he <;> rfl
  | counted i explicit target =>
    rw [Command.gives, Command.gives, Command.readable]
    cases hs : startCounted explicit target use with
    | error result =>
      refine .refl _ fun e he => ?_
      change result = .error e at he
      rw [he] at hs
      exact readable_of_startCounted hs
    | ok name => exact (target.gives_alike _ args named).mapError (keeps_readable hf hg)
  | builtin b =>
    rw [Command.gives, Command.gives]
    refine .refl _ fun e he => ?_
    cases hb : b.apply args !named.isEmpty <;> rw [hb] at he <;> cases he
    rfl
  | classItself name =>
    rw [Command.gives, Command.gives]
    refine .refl _ fun e he => ?_
    split at he <;> cases he
    rfl
  | value v =>
    rw [Command.gives, Command.gives]
    exact .raised fun _ => ⟨rfl, rfl⟩

theorem Body.gives_alike (b : Body) (args : List Value) (named : List (String × Value)) :
    Outcome.Alike (b.readable = true) (b.gives f args named) (b.gives g args named) := by
  cases b with
  | finish e =>
    rw [Body.gives, Body.gives, Body.readable]
    cases e with
    | raises e => exact .raised fun h => ⟨rfl, h⟩
    | echoes => exact .returned _
    | returns v => exact .returned _
  | execute i c cargs rest =>
    rw [Body.gives, Body.gives, Body.readable, Bool.and_eq_true]
    have hc := (c.gives_alike .execute cargs []).mapError (keeps_readable hf hg)
    have hentered := hc.unlessRefused c fun e => Command.readable_of_enter
    exact (hentered.imp And.left).followed ((rest.gives_alike args named).imp And.right)
  | call c rest =>
    rw [Body.gives, Body.gives, Body.readable, Bool.and_eq_true]
    have hc := c.gives_alike .call [] []
    exact (hc.imp And.left).followed ((rest.gives_alike args named).imp And.right)
  | await c rest =>
    rw [Body.gives, Body.gives, Body.readable, Bool.and_eq_true]
    have hc := c.gives_alike .await [] []
    exact (hc.imp And.left).followed ((rest.gives_alike args named).imp And.right)

end

end Leaving

theorem Command.outcome_alike (c : Command) (use : Use) (args : List Value)
    (named : List (String × Value)) :
    Outcome.Alike (c.readable = true) (c.bare use args named) (c.outcome use args named) :=
  c.gives_alike (fun _ _ => rfl) (fun _ => Raised.leaving_of_readable) use args named

/-- What leaves the execution of a command. -/
theorem Command.leaving_alike (c : Command) (use : Use) (args : List Value)
    (named : List (String × Value)) :
    Outcome.Alike (c.readable = true) (c.bare use args named)
      ((c.outcome use args named).mapError Raised.leaving) := by
  have h := (c.outcome_alike use args named).mapError
    (keeps_readable (f := id) (fun _ _ => rfl) fun _ => Raised.leaving_of_readable)
  cases hb : c.bare use args named <;> rw [hb] at h <;> exact h

/-- A command whose exceptions can all be read gives the same whether executions are counted or not.
-/
theorem Command.outcome_of_readable {c : Command} (h : c.readable = true) (use : Use)
    (args : List Value) (named : List (String × Value)) :
    c.outcome use args named = c.bare use args named :=
  (c.outcome_alike use args named).eq h

end UsageMeter
