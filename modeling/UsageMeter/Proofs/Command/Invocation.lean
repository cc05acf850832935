import UsageMeter.Proofs.Command.Wrapping

/-!
What an interceptor invokes. It refuses classes and what cannot be executed at all, before anything
happens. Of every other command it invokes one part, once and with the arguments that it was given,
and then closes the execution.
-/
namespace UsageMeter

/-! ## Spans only come -/

/-- Closing an execution finishes one more span, also where it cannot be counted. -/
theorem Recorder.spans_close (s : Recorder) (i : Interceptor) (name parent : Option String)
    (result : Outcome) : ∃ x, (s.close i name parent result).1.spans = s.spans ++ [x] := by
  have hspans : (s.count i.tracker name).1.spans = s.spans := by
    cases name <;> rfl
  rw [close]
  generalize s.count i.tracker name = counted at hspans
  obtain ⟨s', _ | e⟩ := counted
  · exact ⟨_, congrArg (· ++ [_]) hspans⟩
  · exact ⟨_, congrArg (· ++ [_]) hspans⟩

/-- An execution that starts finishes a span after those of its command. -/
theorem Interceptor.exists_spans_execute (i : Interceptor) {c : Command} {name : Option String}
    (parent : Option String) {args : List Value} {named : List (String × Value)} {s : Recorder}
    (hr : c.enter = .ok name)
    (hc : s.spans <+: (c.apply .execute (some (spanName name)) args named s).1.spans) :
    ∃ more x, (i.execute c parent args named s).1.spans = s.spans ++ more ++ [x] := by
  obtain ⟨more, hmore⟩ := hc
  rw [execute, hr]
  dsimp only
  generalize c.apply .execute (some (spanName name)) args named s = out at hmore
  obtain ⟨s', result⟩ := out
  obtain ⟨x, hx⟩ := s'.spans_close i name parent result
  exact ⟨more, x, by rw [hmore]; exact hx⟩

theorem Body.followed_prefix {s : Recorder} {out : Recorder × Outcome} {rest : Body}
    {parent : Option String} {args : List Value} {named : List (String × Value)} :
    s.spans <+: out.1.spans →
    (∀ s' : Recorder, s'.spans <+: (rest.run parent args named s').1.spans) →
    s.spans <+: (match out with
      | (s, .error e) => (s, .error e)
      | (s, .ok _) => rest.run parent args named s : Recorder × Outcome).1.spans := by
  intro h hrest
  obtain ⟨s', e | reply⟩ := out
  · exact h
  · exact h.trans (hrest s')

mutual

/-- By induction on the tree: a finished span is never taken back, and every part goes on from what
the part before it left. -/
theorem Command.spans_prefix_apply (c : Command) (use : Use) (parent : Option String)
    (args : List Value) (named : List (String × Value)) (s : Recorder) :
    s.spans <+: (c.apply use parent args named s).1.spans := by
  cases c with
  | function _ _ body | method _ body | preset body =>
    rw [Command.apply]
    exact body.spans_prefix_run parent args named s
  | coroutine _ body =>
    rw [Command.apply]
    split
    · exact body.spans_prefix_run parent args named s
    · exact List.prefix_rfl
  | object className nature execute call body =>
    rw [Command.apply]
    by_cases hslot : slotFor use nature execute call = .body
    · simp only [hslot, if_true]
      exact body.spans_prefix_run parent args named s
    · simp only [hslot, if_false]
      exact List.prefix_rfl
  | classItself name =>
    rw [Command.apply]
    cases args.isEmpty && named.isEmpty <;> exact List.prefix_rfl
  | counted i explicit target =>
    rw [Command.apply]
    cases startCounted explicit target use with
    | error result => exact List.prefix_rfl
    | ok name =>
      have hbelow := target.spans_prefix_apply (if use = .await then .await else .call)
        (some (spanName name)) args named s
      obtain ⟨x, hx⟩ := Recorder.spans_close (target.apply (if use = .await then .await else .call)
        (some (spanName name)) args named s).1 i name parent _
      exact hbelow.trans ⟨[x], hx.symm⟩
  | builtin _ | value _ =>
    simp [Command.apply]

theorem Body.spans_prefix_run (b : Body) (parent : Option String) (args : List Value)
    (named : List (String × Value)) (s : Recorder) :
    s.spans <+: (b.run parent args named s).1.spans := by
  cases b with
  | finish e =>
    simp [Body.run]
  | execute i c cargs rest =>
    rw [Body.run_execute]
    refine Body.followed_prefix ?_ (rest.spans_prefix_run parent args named)
    cases hr : c.enter with
    | error e =>
      simp [Interceptor.execute, hr]
    | ok name =>
      obtain ⟨more, x, hx⟩ := i.exists_spans_execute parent hr
        (c.spans_prefix_apply .execute (some (spanName name)) cargs [] s)
      rw [hx, List.append_assoc]
      exact List.prefix_append _ _
  | call c rest =>
    rw [Body.run]
    exact Body.followed_prefix (c.spans_prefix_apply .call parent [] [] s)
      (rest.spans_prefix_run parent args named)
  | await c rest =>
    rw [Body.run]
    exact Body.followed_prefix (c.spans_prefix_apply .await parent [] [] s)
      (rest.spans_prefix_run parent args named)

end

/-! ## Parts of commands -/

namespace Command

/-- A class, or what cannot be called and has no execute method that can be. -/
def Unfit (c : Command) : Prop :=
  c.isClass = true ∨ (c.isCallable = false ∧ c.hasExecute = false)

/-- A command that could be made and that, where it counts as a routine, can be called and bears a
name. Only what binds as functions do may count as one without that. -/
structure Proper (c : Command) : Prop where
  made : c.made = .ok ()
  callable : c.isRoutine = true → c.isCallable = true
  named : c.isRoutine = true → c.ownName?.isSome = true

/-- The part of a command that is meant: a routine itself, whatever attributes it has, and else the
execute method if there is one that can be called. -/
def target (c : Command) : Part :=
  if c.isRoutine || !c.hasExecute then .itself else .executeMethod

/-- What invoking the execute method of a command gives: that of an object is its execute
attribute, that of a function is another function, and nothing else has one. -/
def invokeExecute (c : Command) (parent : Option String) (args : List Value)
    (named : List (String × Value)) (s : Recorder) : Recorder × Outcome :=
  match c with
  | .object className _ execute _ body =>
    if execute = .body then body.run parent args named s else (s, execute.otherwise className)
  | .function _ true _ => (s, Slot.wrong.otherwise c.typeName)
  | _ => (s, .error (notCallable Value.null.kind))

/-- What invoking one part of a command gives. -/
def invoke (c : Command) (part : Part) (parent : Option String) (args : List Value)
    (named : List (String × Value)) (s : Recorder) : Recorder × Outcome :=
  match part with
  | .itself => c.apply .call parent args named s
  | .executeMethod => c.invokeExecute parent args named s

theorem resolve_cases {c : Command} (h : c.isRoutine = true → c.isCallable = true) :
    (c.Unfit ∧ ∃ refusal, c.resolve = .error refusal) ∨
      (¬c.Unfit ∧ c.resolve = .ok c.target) := by
  cases c with
  | object className nature execute call body =>
    cases hb : nature.binds <;> cases he : execute.isCallable <;> by_cases hc : call = .absent <;>
      simp [Unfit, resolve, target, isClass, isRoutine, hasExecute, isCallable, hb, he, hc] at h ⊢
  | classItself name => simp [Unfit, resolve, isClass]
  | value v => simp [Unfit, resolve, isClass, isRoutine, hasExecute, isCallable]
  | _ => simp [Unfit, resolve, target, isClass, isRoutine, hasExecute, isCallable]

/-- Whether a proper command starts depends on its part alone; its name is never missing. -/
theorem Proper.enter_eq {c : Command} (h : c.Proper) :
    c.enter = (c.resolve.mapError fun refusal => typeError refusal.message).map fun _ =>
      c.name? := by
  have hnamed : c.named = .ok c.name? := by
    have hok : ∃ qualified, c.qualifiedName = .ok qualified := by
      rw [qualifiedName]
      cases c.ownText? with
      | some text => exact ⟨text, rfl⟩
      | none =>
        cases hr : c.isRoutine with
        | true =>
          obtain ⟨name, hname⟩ := Option.isSome_iff_exists.1 (h.named hr)
          exact ⟨name, by simp [hname]⟩
        | false =>
          cases c with
          | classItself name => exact ⟨name, rfl⟩
          | _ => exact ⟨_, rfl⟩
    obtain ⟨qualified, hq⟩ := hok
    rw [name?, Command.named, hq]
    rfl
  rw [enter, h.made, hnamed]
  cases c.resolve <;> rfl

section Invoking
variable {c : Command} (parent : Option String) (args : List Value)
  (named : List (String × Value)) (s : Recorder)

/-- What an interceptor applies is the part that is meant, and nothing else. -/
theorem apply_execute_eq_invoke (hr : c.resolve = .ok c.target) :
    c.apply .execute parent args named s = c.invoke c.target parent args named s := by
  cases ht : c.target with
  | itself =>
    rw [ht] at hr
    exact apply_execute_of_invokedItself (c.resolve_eq_itself_iff.1 hr) parent
  | executeMethod =>
    have hmethod : c.isRoutine = false ∧ c.hasExecute = true := by
      simpa [target] using ht
    cases c with
    | object className nature execute call body =>
      have hb : nature.binds = false := hmethod.1
      have he : execute.isCallable = true := hmethod.2
      have hslot : slotFor .execute nature execute call = execute := by simp [slotFor, hb, he]
      rw [apply]
      simp only [hslot]
      rfl
    | function _ _ _ => simp [isRoutine] at hmethod
    | _ => simp [hasExecute] at hmethod

end Invoking
end Command

/-- For every proper command, an interceptor fails with a type error that leaves everything as it
was, so that no part runs, no span is finished and nothing is counted, exactly if the command is a
class or has neither a call attribute nor an execute method that can be called. Of every other
command it invokes one part, once and with the arguments that it was given, and closes the execution
with what that gave: the command itself if that is a routine or has no execute method that can be
called, else that method. From outside any span the same happens, unless a named argument has the
name of one of the interceptor's own parameters, and what is to be awaited is awaited after that. -/
theorem one_part_invoked_or_refused (i : Interceptor) {c : Command} (hc : c.Proper)
    (parent : Option String) (args : List Value) (named : List (String × Value)) (s : Recorder) :
    let out := i.execute c parent args named s
    ((∃ text, out = (s, .error (typeError text))) ↔ c.Unfit) ∧
    (c.Unfit → ∃ refusal : Refusal, out = (s, .error (typeError refusal.message)) ∧
      ((∀ e ∈ named, e.1 ∉ reservedNames) →
        i.executeAndAwait c args named s = (s, .error (typeError refusal.message)))) ∧
    (¬c.Unfit →
      let given := c.invoke (if c.isRoutine = true ∨ c.hasExecute = false then .itself
        else .executeMethod) (some (spanName c.name?)) args named s
      out = given.1.close i c.name? parent given.2 ∧
      ((∀ e ∈ named, e.1 ∉ reservedNames) →
        i.executeAndAwait c args named s =
          match given.1.close i c.name? none given.2 with
          | (s', .ok .pending) => c.apply .await none args named s'
          | done => done)) := by
  intro out
  have henter := hc.enter_eq
  obtain ⟨hunfit, refusal, hr⟩ | ⟨hfit, hr⟩ := Command.resolve_cases hc.callable
  · rw [hr] at henter
    have hrefused : ∀ parent, i.execute c parent args named s =
        (s, .error (typeError refusal.message)) := by
      intro parent
      rw [Interceptor.execute, henter]
      rfl
    refine ⟨iff_of_true ⟨_, hrefused parent⟩ hunfit, fun _ => ⟨refusal, hrefused parent, ?_⟩,
      fun hfit => absurd hunfit hfit⟩
    intro hn
    rw [Interceptor.executeAndAwait, find?_reservedNames hn, hrefused]
  · rw [hr] at henter
    change c.enter = .ok c.name? at henter
    have hpart : c.target = if c.isRoutine = true ∨ c.hasExecute = false then .itself
        else .executeMethod := by
      simp [Command.target]
    have hexecute : ∀ parent, i.execute c parent args named s =
        (c.invoke c.target (some (spanName c.name?)) args named s).1.close i c.name? parent
          (c.invoke c.target (some (spanName c.name?)) args named s).2 := by
      intro parent
      rw [Interceptor.execute, henter, ← Command.apply_execute_eq_invoke _ _ _ _ hr]
    have hspan : out.1 ≠ s := by
      obtain ⟨more, x, hx⟩ := i.exists_spans_execute parent henter
        (c.spans_prefix_apply .execute (some (spanName c.name?)) args named s)
      intro hsame
      have hlength := congrArg List.length hx
      change out.1.spans.length = _ at hlength
      rw [hsame, List.length_append, List.length_append, List.length_singleton] at hlength
      omega
    have hdone : ¬∃ text, out = (s, .error (typeError text)) := by
      rintro ⟨text, ht⟩
      exact hspan (congrArg Prod.fst ht)
    refine ⟨iff_of_false hdone hfit, fun hunfit => absurd hunfit hfit, fun _ => ?_⟩
    rw [← hpart]
    refine ⟨hexecute parent, fun hn => ?_⟩
    rw [Interceptor.executeAndAwait, find?_reservedNames hn, hexecute]
    generalize (c.invoke c.target (some (spanName c.name?)) args named s).1.close i c.name? none
      (c.invoke c.target (some (spanName c.name?)) args named s).2 = closed
    obtain ⟨s', e | reply⟩ := closed
    · rfl
    · cases reply <;> rfl

/-- An object with an execute method and a call attribute of its own. -/
def queuedJob : Command :=
  .object "Job" .plain .body .wrong (.finish .echoes)

/-- An object whose execute attribute is data, and that cannot be called. -/
def storedJob : Command :=
  .object "Job" .plain .data .absent (.finish .echoes)

/-- An object that binds as functions do, bears a name and can be called. -/
def boundJob : Command :=
  .object "Step" (.binding (some "jobs.step")) .wrong .body (.finish .echoes)

theorem queued_job_invoked :
    let i : Interceptor := ⟨0, defaultTracer⟩
    let named : List (String × Value) := [("retry", .bool true)]
    let s : Recorder := ⟨⟨[Registry.emptyTracker], []⟩, [], []⟩
    let out := i.execute queuedJob none [.int 7] named s
    (∀ e ∈ named, e.1 ∉ reservedNames) ∧ ¬queuedJob.Unfit ∧ storedJob.Unfit ∧
    out.2 = .ok (.value (.list [.list [.int 7], .dictionary [(.str "retry", .bool true)]])) ∧
    (out.1.hub.registry 0).pairs = [("Job", 1)] ∧
    i.executeAndAwait storedJob [.int 7] named s =
      (s, .error (typeError "Job is neither callable nor exposes execute()")) ∧
    ((i.execute chargingCommand none [] named s).1.hub.registry 0).pairs = [("charge", 1)] ∧
    ((i.execute boundJob none [] named s).1.hub.registry 0).pairs = [("step", 1)] := by
  intro i named s out
  have hn : ∀ e ∈ named, e.1 ∉ reservedNames := by decide
  have hplain : ∀ execute call body, (Command.object "Job" .plain execute call body).Proper :=
    fun _ _ _ => ⟨rfl, fun h => absurd h Bool.false_ne_true, fun h => absurd h Bool.false_ne_true⟩
  have hcharging : chargingCommand.Proper := ⟨rfl, fun _ => rfl, fun _ => rfl⟩
  have hbound : boundJob.Proper := ⟨rfl, fun _ => rfl, fun _ => rfl⟩
  have hqueued : ¬queuedJob.Unfit := by simp [Command.Unfit, queuedJob, Command.isClass,
    Command.isCallable]
  have hstored : storedJob.Unfit := Or.inr ⟨rfl, rfl⟩
  have hfit : ¬chargingCommand.Unfit := by simp [Command.Unfit, chargingCommand,
    Command.isClass, Command.isCallable]
  have hbinds : ¬boundJob.Unfit := by simp [Command.Unfit, boundJob, Command.isClass,
    Command.isCallable]
  obtain ⟨-, -, hinvoked⟩ :=
    one_part_invoked_or_refused i (hplain .body .wrong (.finish .echoes)) none [.int 7] named s
  obtain ⟨-, hrefused, -⟩ :=
    one_part_invoked_or_refused i (hplain .data .absent (.finish .echoes)) none [.int 7] named s
  obtain ⟨-, -, hcharged⟩ := one_part_invoked_or_refused i hcharging none [] named s
  obtain ⟨-, -, hstepped⟩ := one_part_invoked_or_refused i hbound none [] named s
  obtain ⟨hout, -⟩ := hinvoked hqueued
  obtain ⟨refusal, hfails, hawaited⟩ := hrefused hstored
  obtain ⟨hcharge, -⟩ := hcharged hfit
  obtain ⟨hstep, -⟩ := hstepped hbinds
  refine ⟨hn, hqueued, hstored, ?_, ?_, (hawaited hn).trans ?_, ?_, ?_⟩
  · rw [show out = _ from hout]
    simp [Command.isRoutine, Nature.binds, Command.hasExecute, Slot.isCallable, Command.invoke,
      Command.invokeExecute, Body.run, Ending.outcome, sortNamed, named]
    rfl
  · rw [show out = _ from hout]
    decide +kernel
  · rw [← hfails]
    rfl
  · rw [hcharge]
    decide +kernel
  · rw [hstep]
    decide +kernel

/-- An object that binds as functions do, with an execute method and without a call attribute. -/
def hookJob : Command :=
  .object "Hook" (.binding (some "hook")) .body .absent (.finish .echoes)

/-- An object whose call attribute is data. -/
def emptyJob : Command :=
  .object "Job" .plain .absent .data (.finish .echoes)

/-- The one is refused although it has an execute method that can be called; the other cannot be
called and has no such method, and yet a span is opened for it and it is counted. -/
theorem hook_job_refused :
    let i : Interceptor := ⟨0, defaultTracer⟩
    let s : Recorder := ⟨⟨[Registry.emptyTracker], []⟩, [], []⟩
    let out := i.execute emptyJob none [] [] s
    hookJob.hasExecute = true ∧ hookJob.isClass = false ∧
    i.execute hookJob none [] [] s =
      (s, .error (typeError "Hook is neither callable nor exposes execute()")) ∧
    out.2 = .error (typeError "'int' object is not callable") ∧
    out.1.spans.map Span.name = ["command.Job"] ∧ (out.1.hub.registry 0).pairs = [("Job", 1)] := by
  intro i s out
  exact ⟨rfl, rfl, rfl, rfl, rfl, by decide +kernel⟩

end UsageMeter
