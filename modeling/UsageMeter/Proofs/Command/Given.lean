import UsageMeter.Proofs.Command.NormalName
import UsageMeter.Proofs.Command.Replay

/-!
Where names come from. Every execution in a tree counts under the name of a command, or under one
that was given to a function that counts its calls.
-/
namespace UsageMeter

mutual

/-- Nobody gave a name to the functions in a command that count their calls in a tracker. -/
def Command.selfNamed (t : Nat) : Command → Bool
  | .function _ _ body => body.selfNamed t
  | .coroutine _ body => body.selfNamed t
  | .method _ body => body.selfNamed t
  | .preset body => body.selfNamed t
  | .object _ _ _ _ body => body.selfNamed t
  | .counted i explicit target => (i.tracker ≠ t || ungiven explicit) && target.selfNamed t
  | .builtin _ => true
  | .classItself _ => true
  | .value _ => true

/-- Nobody gave a name to the functions in a body that count their calls in a tracker. -/
def Body.selfNamed (t : Nat) : Body → Bool
  | .finish _ => true
  | .execute _ c _ rest => c.selfNamed t && rest.selfNamed t
  | .call c rest => c.selfNamed t && rest.selfNamed t
  | .await c rest => c.selfNamed t && rest.selfNamed t

end

/-- An execution has the name of a command or one that was given to a function; if `self` holds, not
the latter where a tracker is concerned. -/
def Execution.Named (t : Nat) (self : Bool) (e : Execution) : Prop :=
  ∃ explicit target, e.name = resolvedName? explicit target ∧
    (self = true → e.watcher.tracker = t → ungiven explicit = true)

namespace Execution.Named
variable {t : Nat} {self : Bool} {e : Execution}

theorem imp {other : Bool} (h : e.Named t self) (hs : other = true → self = true) :
    e.Named t other := by
  obtain ⟨explicit, target, hname, hgiven⟩ := h
  exact ⟨explicit, target, hname, fun ho => hgiven (hs ho)⟩

theorem normal (h : e.Named t true) (ht : e.watcher.tracker = t) {name : String}
    (hn : e.name = some name) : NormalName name := by
  obtain ⟨explicit, target, hname, hgiven⟩ := h
  rw [hname, resolvedName?_of_ungiven (hgiven rfl ht)] at hn
  exact Command.normal_of_name? hn

end Execution.Named

/-- An interceptor counts a command under its own name. -/
theorem Interceptor.named_executions {t : Nat} {self : Bool} {i : Interceptor} {c : Command}
    {parent : Option String} {args : List Value} {named : List (String × Value)}
    (hc : ∀ e ∈ c.executions .execute (some (spanName c.name?)) args named, e.Named t self) :
    ∀ e ∈ i.executions c parent args named, e.Named t self := by
  rw [Interceptor.executions]
  cases hr : c.enter with
  | error e => exact fun e he => absurd he List.not_mem_nil
  | ok name =>
    obtain rfl := Command.name?_of_enter hr
    intro e he
    obtain he | he := List.mem_append.1 he
    · exact hc e he
    · rw [List.mem_singleton.1 he]
      exact ⟨none, c, rfl, fun _ _ => rfl⟩

mutual

/-- By induction on the tree: the executions below have their names by themselves, and one that a
function counts itself has the name that was given to it or that of its target. -/
theorem Command.named_executions (t : Nat) (c : Command) (use : Use) (parent : Option String)
    (args : List Value) (named : List (String × Value)) :
    ∀ e ∈ c.executions use parent args named, e.Named t (c.selfNamed t) := by
  intro e he
  cases c with
  | function _ _ body | method _ body | preset body =>
    rw [Command.executions] at he
    exact body.named_executions t parent args named e he
  | coroutine _ body =>
    rw [Command.executions] at he
    split at he
    · exact body.named_executions t parent args named e he
    · exact absurd he List.not_mem_nil
  | object _ _ _ _ body =>
    rw [Command.executions] at he
    split at he
    · exact body.named_executions t parent args named e he
    · exact absurd he List.not_mem_nil
  | counted i explicit target =>
    rw [Command.executions] at he
    rw [Command.selfNamed]
    cases hs : startCounted explicit target use with
    | error result =>
      simp only [hs] at he
      exact absurd he List.not_mem_nil
    | ok name =>
      simp only [hs] at he
      obtain rfl := resolvedName?_of_startCounted hs
      obtain he | he := List.mem_append.1 he
      · exact (target.named_executions t _ _ args named e he).imp fun h =>
          (Bool.and_eq_true_iff.1 h).2
      · rw [List.mem_singleton.1 he]
        refine ⟨explicit, target, rfl, fun h hw => ?_⟩
        have hor := (Bool.and_eq_true_iff.1 h).1
        rw [Bool.or_eq_true] at hor
        exact hor.resolve_left (by simpa using hw)
  | builtin _ | classItself _ | value _ =>
    rw [Command.executions] at he
    exact absurd he List.not_mem_nil

theorem Body.named_executions (t : Nat) (b : Body) (parent : Option String) (args : List Value)
    (named : List (String × Value)) :
    ∀ e ∈ b.executions parent args named, e.Named t (b.selfNamed t) := by
  intro e he
  cases b with
  | finish _ =>
    rw [Body.executions] at he
    exact absurd he List.not_mem_nil
  | execute i c cargs rest =>
    rw [Body.executions] at he
    rw [Body.selfNamed]
    obtain he | he := List.mem_append.1 he
    · have hc := Interceptor.named_executions
        (c.named_executions t .execute (some (spanName c.name?)) cargs []) e he
      exact hc.imp fun h => (Bool.and_eq_true_iff.1 h).1
    · split at he
      · exact (rest.named_executions t parent args named e he).imp fun h =>
          (Bool.and_eq_true_iff.1 h).2
      · exact absurd he List.not_mem_nil
  | call c rest | await c rest =>
    rw [Body.executions] at he
    rw [Body.selfNamed]
    obtain he | he := List.mem_append.1 he
    · exact (c.named_executions t _ parent [] [] e he).imp fun h => (Bool.and_eq_true_iff.1 h).1
    · split at he
      · exact (rest.named_executions t parent args named e he).imp fun h =>
          (Bool.and_eq_true_iff.1 h).2
      · exact absurd he List.not_mem_nil

end

end UsageMeter
