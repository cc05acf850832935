import UsageMeter.Proofs.Command.Spans

/-!
Executing and wrapping. An interceptor invokes most commands themselves, as a function that wraps
them and counts its calls does. A synchronous command of this kind has the same result, leaves the
same counts and finishes the same spans in both ways.
-/
namespace UsageMeter

namespace Command

/-- What can be called and is a routine, whatever attributes it has, or no class and without an
execute method that can be called. -/
def InvokedItself (c : Command) : Prop :=
  c.isCallable = true ∧ (c.isRoutine = true ∨ (c.isClass = false ∧ c.hasExecute = false))

theorem resolve_eq_itself_iff (c : Command) : c.resolve = .ok .itself ↔ c.InvokedItself := by
  cases c with
  | object className nature execute call body =>
    cases hb : nature.binds <;> cases he : execute.isCallable <;> by_cases hc : call = .absent <;>
      simp [resolve, InvokedItself, hasExecute, isRoutine, isClass, isCallable, hb, he, hc]
  | classItself name => simp [resolve, InvokedItself, isRoutine, isClass]
  | value v => simp [resolve, InvokedItself, hasExecute, isRoutine, isCallable]
  | _ => simp [resolve, InvokedItself, hasExecute, isRoutine, isClass, isCallable]

/-- When a function that counts its calls starts matters only if its target is to be awaited. -/
theorem startCounted_eq {target : Command} (hs : target.isCoroutine = false)
    (explicit : Option String) (use : Use) :
    startCounted explicit target use = startCounted explicit target .call := by
  rw [startCounted, startCounted, hs]
  rfl

theorem startCounted_ne_pending {target : Command} (hs : target.isCoroutine = false)
    {explicit : Option String} {use : Use} {result : Outcome}
    (h : startCounted explicit target use = .error result) : result ≠ .ok .pending := by
  rw [startCounted, hs] at h
  split at h
  · cases h
    simp
  · cases h

section Uses
variable {args : List Value} {named : List (String × Value)} {s : Recorder}

/-- To an interceptor that invokes the command itself, executing is calling. -/
theorem apply_execute_of_invokedItself {c : Command} (hi : c.InvokedItself)
    (parent : Option String) :
    c.apply .execute parent args named s = c.apply .call parent args named s := by
  cases c with
  | object className nature execute call body =>
    have hslot : slotFor .execute nature execute call = slotFor .call nature execute call := by
      obtain ⟨-, hb | ⟨-, he⟩⟩ := hi
      · simp [slotFor, show nature.binds = true from hb]
      · simp [slotFor, show execute.isCallable = false from he]
    rw [apply, apply, hslot]
  | coroutine name body =>
    rw [apply, apply]
    simp
  | counted i explicit target =>
    rw [apply, apply]
    simp [startCounted]
  | _ => rw [apply, apply]

/-- There is nothing to await in what is synchronous. -/
theorem apply_await_of_not_isCoroutine (c : Command) (hs : c.isCoroutine = false)
    (parent : Option String) :
    c.apply .await parent args named s = c.apply .call parent args named s := by
  cases c with
  | object className nature execute call body =>
    rw [apply, apply]
    simp [slotFor]
  | coroutine name body => simp [isCoroutine] at hs
  | counted i explicit target =>
    have ht : target.isCoroutine = false := hs
    rw [apply, apply, startCounted_eq ht]
    simp [target.apply_await_of_not_isCoroutine ht]
  | _ => rw [apply, apply]

end Uses
end Command

/-! ## Nothing is left to be awaited -/

theorem Body.run_ne_pending (b : Body) (parent : Option String) (args : List Value)
    (named : List (String × Value)) (s : Recorder) :
    (b.run parent args named s).2 ≠ .ok .pending := by
  cases b with
  | finish e =>
    rw [Body.run]
    cases e <;> simp [Ending.outcome]
  | execute i c cargs rest =>
    rw [Body.run_execute]
    obtain ⟨s', e | reply⟩ := i.execute c parent cargs [] s
    · simp
    · exact rest.run_ne_pending parent args named s'
  | call c rest =>
    rw [Body.run]
    obtain ⟨s', e | reply⟩ := c.apply .call parent [] [] s
    · simp
    · exact rest.run_ne_pending parent args named s'
  | await c rest =>
    rw [Body.run]
    obtain ⟨s', e | reply⟩ := c.apply .await parent [] [] s
    · simp
    · exact rest.run_ne_pending parent args named s'

theorem Recorder.close_ne_pending {s : Recorder} {i : Interceptor} {name parent : Option String}
    {result : Outcome} (hr : result ≠ .ok .pending) :
    (s.close i name parent result).2 ≠ .ok .pending := by
  rw [close]
  obtain ⟨s', _ | e⟩ := s.count i.tracker name
  · cases result with
    | error e => simp [Except.mapError]
    | ok reply => exact hr
  · simp [Except.mapError]

theorem Command.apply_ne_pending (c : Command) (hs : c.isCoroutine = false) (use : Use)
    (parent : Option String) (args : List Value) (named : List (String × Value)) (s : Recorder) :
    (c.apply use parent args named s).2 ≠ .ok .pending := by
  cases c with
  | function _ _ body | method _ body | preset body =>
    rw [apply]
    exact body.run_ne_pending parent args named s
  | coroutine name body => simp [isCoroutine] at hs
  | builtin b =>
    rw [apply]
    cases b.apply args !named.isEmpty <;> simp [Except.map, Except.mapError]
  | object className nature execute call body =>
    rw [apply]
    by_cases hslot : slotFor use nature execute call = .body
    · simp only [hslot, if_true]
      exact body.run_ne_pending parent args named s
    · simp only [hslot, if_false]
      cases slotFor use nature execute call <;> simp [Slot.otherwise]
  | classItself name =>
    rw [apply]
    cases args.isEmpty && named.isEmpty <;> simp
  | value v =>
    rw [apply]
    simp
  | counted i explicit target =>
    have ht : target.isCoroutine = false := hs
    rw [apply]
    cases hstart : startCounted explicit target use with
    | error result => exact startCounted_ne_pending ht hstart
    | ok name => exact Recorder.close_ne_pending (target.apply_ne_pending ht _ _ args named s)

/-! ## Both ways -/

section Agree
variable {c : Command} (hs : c.isCoroutine = false) (hi : c.InvokedItself) (i : Interceptor)
  {args : List Value} {named : List (String × Value)} {s : Recorder}
include hs hi

/-- A function that is to count the calls of a command fails to be made where an interceptor fails
to start, and starts under the same name. -/
theorem Command.startCounted_eq_enter :
    startCounted none c .call = c.enter.mapError Except.error := by
  rw [startCounted, enter, (c.resolve_eq_itself_iff).2 hi, hs]
  cases c.made with
  | error e => rfl
  | ok _ =>
    simp only [Except.bind, resolvedName]
    cases c.named <;> rfl

theorem Command.executions_counted (he : c.enter.isOk = true) (parent : Option String) :
    (Command.counted i none c).executions .call parent args named =
      c.executions .call (some (spanName c.name?)) args named ++
        [⟨i, c.name?, parent, c.outcome .call args named⟩] := by
  rw [Command.executions, c.startCounted_eq_enter hs hi]
  cases hr : c.enter with
  | error e =>
    rw [hr] at he
    cases he
  | ok name =>
    obtain rfl := Command.name?_of_enter hr
    rfl

theorem Interceptor.execute_eq_counted (parent : Option String) :
    i.execute c parent args named s =
      (Command.counted i none c).apply .call parent args named s := by
  rw [Interceptor.execute, Command.apply, c.startCounted_eq_enter hs hi]
  cases c.enter with
  | error e => rfl
  | ok name =>
    simp only [Command.apply_execute_of_invokedItself hi]
    rfl

theorem Interceptor.executeAndAwait_eq_counted
    (hn : ∀ e ∈ named, e.1 ∉ reservedNames) :
    i.executeAndAwait c args named s = (Command.counted i none c).callAndAwait args named s := by
  have hcall : i.execute c none args named s =
      (Command.counted i none c).apply .call none args named s := i.execute_eq_counted hs hi none
  have hpending := (Command.counted i none c).apply_ne_pending hs .call none args named s
  have hawait : (Command.counted i none c).callAndAwait args named s =
      (Command.counted i none c).apply .call none args named s :=
    (Command.counted i none c).apply_await_of_not_isCoroutine hs none
  rw [← hcall] at hpending
  rw [Interceptor.executeAndAwait, find?_reservedNames hn, hawait, ← hcall]
  generalize i.execute c none args named s = out at hpending
  obtain ⟨s', e | reply⟩ := out
  · rfl
  · cases reply with
    | pending => exact absurd rfl hpending
    | value _ | instanceOf _ => rfl

end Agree

/-- A synchronous command that an interceptor invokes itself gives the same result and leaves the
same counts, events and spans, finished in the same order and with the same parents, whether the
interceptor executes it or a function that wraps it is called, inside a span or outside. If the
command has no name to count under and so cannot start, both fail at once. If it has and all
executions report to trackers, both give what leaves the last of these executions, which is what the
command gives when nothing is counted if all exceptions in it can be read, and the last of the spans
that both finish tells of that. Arguments may not have the names of an interceptor's own
parameters. -/
theorem executed_as_wrapped {c : Command} (hs : c.isCoroutine = false) (hi : c.InvokedItself)
    (i : Interceptor) (parent : Option String) (args : List Value)
    {named : List (String × Value)} (hn : ∀ e ∈ named, e.1 ∉ reservedNames) (s : Recorder) :
    let executed := i.execute c parent args named s
    let wrapped := (Command.counted i none c).apply .call parent args named s
    let last : Execution := ⟨i, c.name?, parent, c.outcome .call args named⟩
    let ended := c.executions .call (some (spanName c.name?)) args named ++ [last]
    executed = wrapped ∧
    i.executeAndAwait c args named s = (Command.counted i none c).callAndAwait args named s ∧
    (∀ e, c.enter = .error e → executed = (s, .error e)) ∧
    (c.readable = true → last.leaving = c.bare .call args named) ∧
    (c.enter.isOk = true → (∀ e ∈ ended, s.hub.Tracks e.watcher.tracker) →
      executed = (ended.foldl Recorder.replay s, last.leaving) ∧
        executed.1.spans = s.spans ++ ended.map Execution.span ∧ last.ToldBy last.span) := by
  intro executed wrapped last ended
  have hsame : executed = wrapped := i.execute_eq_counted hs hi parent
  refine ⟨hsame, i.executeAndAwait_eq_counted hs hi hn, ?_,
    (c.leaving_alike .call args named).eq, fun he ht => ?_⟩
  · intro e he
    change i.execute c parent args named s = _
    rw [Interceptor.execute, he]
  have hended : (Command.counted i none c).executions .call parent args named = ended :=
    Command.executions_counted hs hi i he parent
  have hreplay := (Command.counted i none c).apply_eq_replay .call parent args named s
    (by rwa [hended])
  have hleaving : (Command.counted i none c).outcome .call args named = last.leaving := by
    rw [Command.outcome, Command.gives, c.startCounted_eq_enter hs hi]
    cases hr : c.enter with
    | error e =>
      rw [hr] at he
      cases he
    | ok name => rfl
  rw [hended, hleaving] at hreplay
  have hexecuted : executed = (ended.foldl Recorder.replay s, last.leaving) := hsame.trans hreplay
  refine ⟨hexecuted, ?_, last.toldBy_span (resolvedName?_ne_empty none c)⟩
  rw [hexecuted, Recorder.spans_replays ht]

/-- A function with an execute attribute of its own, which executes something anonymous and then
raises an exception. -/
def chargingCommand : Command :=
  .function "billing.charge" true
    (.execute ⟨0, defaultTracer⟩ (.function anonymousFunction false (.finish (.returns .null))) []
      (.finish (.raises (.saying "ValueError" "declined" true))))

theorem charge_executed_as_wrapped :
    let i : Interceptor := ⟨0, "billing"⟩
    let named : List (String × Value) := [("retry", .bool true)]
    let counts := Registry.run [.increment "charge" (.int 2)] Registry.emptyTracker
    let s : Recorder := ⟨⟨[counts], []⟩, [], []⟩
    let executed := i.execute chargingCommand none [] named s
    (∀ e ∈ named, e.1 ∉ reservedNames) ∧ chargingCommand.hasExecute = true ∧
    i.executeAndAwait chargingCommand [] named s =
      (Command.counted i none chargingCommand).callAndAwait [] named s ∧
    executed.2 = .error (.saying "ValueError" "declined" true) ∧
    executed.1.spans.map Span.name = ["command.anonymous", "command.charge"] ∧
    executed.1.spans.map Span.status = [.ok, .error] ∧
    (executed.1.hub.registry 0).get "charge" = 3 := by
  intro i named counts s executed
  have hn : ∀ e ∈ named, e.1 ∉ reservedNames := by decide
  have htracks : s.hub.Tracks i.tracker := ⟨⟨Registry.commandKind, true, _, rfl⟩, rfl⟩
  have hended : chargingCommand.executions .call (some (spanName chargingCommand.name?)) [] named ++
        [⟨i, chargingCommand.name?, none, chargingCommand.outcome .call [] named⟩] =
      [⟨⟨0, defaultTracer⟩, none, some "command.charge", .ok (.value .null)⟩,
        ⟨i, some "charge", none, .error (.saying "ValueError" "declined" true)⟩] := rfl
  obtain ⟨-, hsame, -, hbare, htold⟩ := executed_as_wrapped rfl
    (⟨rfl, .inl rfl⟩ : chargingCommand.InvokedItself) i none [] hn s
  rw [hended] at htold
  obtain ⟨hexecuted, hspans, -⟩ := htold rfl (by simpa using ⟨htracks, htracks⟩)
  refine ⟨hn, rfl, hsame, (congrArg Prod.snd hexecuted).trans (hbare rfl), ?_, ?_,
    by decide +kernel⟩
  · rw [hspans]
    rfl
  · rw [hspans]
    rfl

end UsageMeter
