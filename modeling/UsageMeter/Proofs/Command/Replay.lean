import UsageMeter.Proofs.Command.Completion

/-!
Runs as replays. What the bodies give says which executions come to their end and in which order,
and a run leaves what closing these executions one after the other leaves.
-/
namespace UsageMeter

/-- An execution at its end: who watched it, the name that it counts under, the span around it, and
what its target gave. -/
structure Execution where
  watcher : Interceptor
  name : Option String
  parent : Option String
  result : Outcome

/-- What an execution passes on to whoever started it. -/
def Execution.leaving (e : Execution) : Outcome :=
  e.result.mapError Raised.leaving

mutual

/-- The executions in a command, in the order in which they end. -/
def Command.executions (c : Command) (use : Use) (parent : Option String) (args : List Value)
    (named : List (String × Value)) : List Execution :=
  match c with
  | .function _ _ body => body.executions parent args named
  | .method _ body => body.executions parent args named
  | .preset body => body.executions parent args named
  | .coroutine _ body => if use = .await then body.executions parent args named else []
  | .object _ nature execute call body =>
    if slotFor use nature execute call = .body then body.executions parent args named else []
  | .counted i explicit target =>
    match startCounted explicit target use with
    | .error _ => []
    | .ok name =>
      let inner := if use = .await then .await else .call
      target.executions inner (some (spanName name)) args named ++
        [⟨i, name, parent, target.outcome inner args named⟩]
  | .builtin _ => []
  | .classItself _ => []
  | .value _ => []

/-- The executions in a body; what follows an exception is not run. -/
def Body.executions (b : Body) (parent : Option String) (args : List Value)
    (named : List (String × Value)) : List Execution :=
  match b with
  | .finish _ => []
  | .execute i c cargs rest =>
    (match c.enter with
      | .error _ => []
      | .ok name => c.executions .execute (some (spanName name)) cargs [] ++
          [⟨i, name, parent, c.outcome .execute cargs []⟩]) ++
      if (c.executed cargs []).isOk then rest.executions parent args named else []
  | .call c rest =>
    c.executions .call parent [] [] ++
      if (c.outcome .call [] []).isOk then rest.executions parent args named else []
  | .await c rest =>
    c.executions .await parent [] [] ++
      if (c.outcome .await [] []).isOk then rest.executions parent args named else []

end

/-- The executions that end when an interceptor executes a command, that of the command last. -/
def Interceptor.executions (i : Interceptor) (c : Command) (parent : Option String)
    (args : List Value) (named : List (String × Value)) : List Execution :=
  match c.enter with
  | .error _ => []
  | .ok name => c.executions .execute (some (spanName name)) args named ++
      [⟨i, name, parent, c.outcome .execute args named⟩]

/-! ## Closing one execution -/

namespace Recorder

def replay (s : Recorder) (e : Execution) : Recorder :=
  (s.close e.watcher e.name e.parent e.result).1

variable {s : Recorder} {e : Execution}

theorem close_eq_replay (ht : s.hub.Tracks e.watcher.tracker) :
    s.close e.watcher e.name e.parent e.result = (s.replay e, e.leaving) :=
  Prod.ext rfl (close_settles ht [] e.name e.parent e.result).outcome

theorem hub_replay (ht : s.hub.Tracks e.watcher.tracker) :
    (s.replay e).hub = Node.settle s.hub ⟨[], e.watcher, e.name, .invoked⟩ :=
  (close_settles ht [] e.name e.parent e.result).hub

theorem tracks_replay {t : Nat} (h : s.hub.Tracks t) (ht : s.hub.Tracks e.watcher.tracker) :
    (s.replay e).hub.Tracks t := by
  rw [hub_replay ht]
  exact h.settle ht

theorem tracks_replays {t : Nat} {es : List Execution} (h : s.hub.Tracks t)
    (ht : ∀ e ∈ es, s.hub.Tracks e.watcher.tracker) : (es.foldl replay s).hub.Tracks t := by
  induction es generalizing s with
  | nil => exact h
  | cons e es ih =>
    have he : s.hub.Tracks e.watcher.tracker := ht e (by simp)
    exact ih (tracks_replay h he) fun e' hm => tracks_replay (ht e' (by simp [hm])) he

end Recorder

/-! ## Runs -/

/-- An execution that was not refused is replayed after those in its command. -/
theorem Interceptor.execute_eq_replay {i : Interceptor} {c : Command} {parent : Option String}
    {args : List Value} {named : List (String × Value)} {s : Recorder}
    (ht : ∀ e ∈ i.executions c parent args named, s.hub.Tracks e.watcher.tracker)
    (hc : (∀ e ∈ c.executions .execute (some (spanName c.name?)) args named,
        s.hub.Tracks e.watcher.tracker) →
      c.apply .execute (some (spanName c.name?)) args named s =
        ((c.executions .execute (some (spanName c.name?)) args named).foldl Recorder.replay s,
          c.outcome .execute args named)) :
    i.execute c parent args named s =
      ((i.executions c parent args named).foldl Recorder.replay s, c.executed args named) := by
  rw [Interceptor.execute, Command.executed, Command.unlessRefused, Interceptor.executions] at *
  cases hr : c.enter with
  | error e => rfl
  | ok name =>
    obtain rfl := Command.name?_of_enter hr
    simp only [hr] at ht ⊢
    have hbelow := fun e hm => ht e (List.mem_append_left _ hm)
    have hlast := Recorder.tracks_replays
      (ht _ (List.mem_append_right _ (List.mem_singleton.2 rfl))) hbelow
    have hclose := Recorder.close_eq_replay hlast
    rw [hc hbelow, List.foldl_append]
    exact hclose

/-- The rest of a body is replayed after what comes before it, unless that gave an exception. -/
theorem Body.followed_eq_replay {s : Recorder} {front : List Execution} {result : Outcome}
    {rest : Body} {parent : Option String} {args : List Value} {named : List (String × Value)}
    {out : Recorder × Outcome} :
    out = (front.foldl Recorder.replay s, result) →
    (∀ e ∈ front ++ (if result.isOk then rest.executions parent args named else []),
      s.hub.Tracks e.watcher.tracker) →
    (∀ s' : Recorder,
      (∀ e ∈ rest.executions parent args named, s'.hub.Tracks e.watcher.tracker) →
        rest.run parent args named s' =
          ((rest.executions parent args named).foldl Recorder.replay s',
            rest.outcome args named)) →
    (match out with
      | (s, .error e) => (s, .error e)
      | (s, .ok _) => rest.run parent args named s) =
    ((front ++ (if result.isOk then rest.executions parent args named else [])).foldl
        Recorder.replay s,
      match result with
      | .error e => .error e
      | .ok _ => rest.outcome args named) := by
  intro hf ht hrest
  subst hf
  cases result with
  | error e => simp [Except.isOk, Except.toBool]
  | ok reply =>
    have hb : (Except.ok reply : Outcome).isOk = true := rfl
    rw [if_pos hb] at ht ⊢
    rw [List.foldl_append]
    refine hrest _ fun e hm => ?_
    exact Recorder.tracks_replays (ht e (List.mem_append_right _ hm))
      fun e' hm' => ht e' (List.mem_append_left _ hm')

mutual

/-- By induction on the tree, as executions and outcomes are. Replaying keeps all trackers, so that
each part finds them as the part before it did. -/
theorem Command.apply_eq_replay (c : Command) (use : Use) (parent : Option String)
    (args : List Value) (named : List (String × Value)) (s : Recorder)
    (ht : ∀ e ∈ c.executions use parent args named, s.hub.Tracks e.watcher.tracker) :
    c.apply use parent args named s =
      ((c.executions use parent args named).foldl Recorder.replay s, c.outcome use args named) := by
  cases c with
  | function _ _ body | method _ body | preset body =>
    rw [Command.executions] at ht ⊢
    rw [Command.outcome, Command.gives, Command.apply]
    exact body.run_eq_replay parent args named s ht
  | coroutine _ body =>
    rw [Command.executions] at ht ⊢
    rw [Command.outcome, Command.gives, Command.apply]
    by_cases hu : use = .await
    · simp only [if_pos hu] at ht ⊢
      rw [body.run_eq_replay parent args named s ht]
      rfl
    · simp only [if_neg hu]
      rfl
  | object className nature execute call body =>
    rw [Command.executions] at ht ⊢
    rw [Command.outcome, Command.gives, Command.apply]
    by_cases hslot : slotFor use nature execute call = .body
    · simp only [if_pos hslot] at ht ⊢
      exact body.run_eq_replay parent args named s ht
    · simp only [if_neg hslot]
      rfl
  | counted i explicit target =>
    rw [Command.executions] at ht ⊢
    rw [Command.outcome, Command.gives, Command.apply]
    cases hs : startCounted explicit target use with
    | error result => rfl
    | ok name =>
      simp only [hs] at ht ⊢
      have hbelow := fun e hm => ht e (List.mem_append_left _ hm)
      have hlast := Recorder.tracks_replays
        (ht _ (List.mem_append_right _ (List.mem_singleton.2 rfl))) hbelow
      have hclose := Recorder.close_eq_replay hlast
      rw [target.apply_eq_replay _ _ args named s hbelow, List.foldl_append]
      exact hclose
  | builtin b =>
    rw [Command.executions, Command.outcome, Command.gives, Command.apply]
    rfl
  | classItself name =>
    rw [Command.executions, Command.outcome, Command.gives, Command.apply]
    cases args.isEmpty && named.isEmpty <;> rfl
  | value v =>
    rw [Command.executions, Command.outcome, Command.gives, Command.apply]
    rfl

theorem Body.run_eq_replay (b : Body) (parent : Option String) (args : List Value)
    (named : List (String × Value)) (s : Recorder)
    (ht : ∀ e ∈ b.executions parent args named, s.hub.Tracks e.watcher.tracker) :
    b.run parent args named s =
      ((b.executions parent args named).foldl Recorder.replay s, b.outcome args named) := by
  cases b with
  | finish e =>
    rw [Body.executions, Body.outcome, Body.gives, Body.run]
    rfl
  | execute i c cargs rest =>
    rw [Body.executions] at ht ⊢
    rw [Body.outcome, Body.gives, Body.run_execute]
    have hc := Interceptor.execute_eq_replay (fun e hm => ht e (List.mem_append_left _ hm))
      (c.apply_eq_replay .execute (some (spanName c.name?)) cargs [] s)
    exact Body.followed_eq_replay hc ht (rest.run_eq_replay parent args named)
  | call c rest =>
    rw [Body.executions] at ht ⊢
    rw [Body.outcome, Body.gives, Body.run]
    have hc := c.apply_eq_replay .call parent [] [] s
      fun e hm => ht e (List.mem_append_left _ hm)
    exact Body.followed_eq_replay hc ht (rest.run_eq_replay parent args named)
  | await c rest =>
    rw [Body.executions] at ht ⊢
    rw [Body.outcome, Body.gives, Body.run]
    have hc := c.apply_eq_replay .await parent [] [] s
      fun e hm => ht e (List.mem_append_left _ hm)
    exact Body.followed_eq_replay hc ht (rest.run_eq_replay parent args named)

end

end UsageMeter
