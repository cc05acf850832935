import UsageMeter.Proofs.Command.Spans

/-!
Coroutine functions. Calling one only gives something to be awaited, which is all that an
interceptor waits for: it counts the execution and finishes its span before any of the body runs. A
function that wraps the command awaits it inside the span.
-/
namespace UsageMeter

/-! ## Executions under other spans -/

/-- An execution without the span around it. -/
def Execution.unplaced (e : Execution) : Execution :=
  ⟨e.watcher, e.name, none, e.result⟩

mutual

/-- The span around a command is told by the executions next to it and by nothing else. -/
theorem Command.unplaced_executions (c : Command) (use : Use) (p q : Option String)
    (args : List Value) (named : List (String × Value)) :
    (c.executions use p args named).map Execution.unplaced =
      (c.executions use q args named).map Execution.unplaced := by
  cases c with
  | function _ _ body | method _ body | preset body =>
    rw [Command.executions, Command.executions]
    exact body.unplaced_executions p q args named
  | coroutine _ body =>
    rw [Command.executions, Command.executions]
    by_cases hu : use = .await
    · rw [if_pos hu, if_pos hu]
      exact body.unplaced_executions p q args named
    · rw [if_neg hu, if_neg hu]
  | object _ nature execute call body =>
    rw [Command.executions, Command.executions]
    by_cases hslot : slotFor use nature execute call = .body
    · rw [if_pos hslot, if_pos hslot]
      exact body.unplaced_executions p q args named
    · rw [if_neg hslot, if_neg hslot]
  | counted i explicit target =>
    rw [Command.executions, Command.executions]
    cases startCounted explicit target use with
    | error result => rfl
    | ok name =>
      simp only [List.map_append]
      rfl
  | builtin _ | classItself _ | value _ => rw [Command.executions, Command.executions]

theorem Body.unplaced_executions (b : Body) (p q : Option String) (args : List Value)
    (named : List (String × Value)) :
    (b.executions p args named).map Execution.unplaced =
      (b.executions q args named).map Execution.unplaced := by
  cases b with
  | finish e => rw [Body.executions, Body.executions]
  | execute i c cargs rest =>
    have hrest := rest.unplaced_executions p q args named
    rw [Body.executions, Body.executions, List.map_append, List.map_append]
    congr 1
    · cases c.enter with
      | error e => rfl
      | ok name => simp [Execution.unplaced]
    · split
      · exact hrest
      · rfl
  | call c rest | await c rest =>
    have hrest := rest.unplaced_executions p q args named
    rw [Body.executions, Body.executions, List.map_append, List.map_append,
      c.unplaced_executions _ p q]
    congr 1
    split
    · exact hrest
    · rfl

end

/-- Executions report to the same trackers under any span. -/
theorem Command.tracks_executions {c : Command} {use : Use} {p : Option String}
    {args : List Value} {named : List (String × Value)} {h : Hub}
    (ht : ∀ e ∈ c.executions use p args named, h.Tracks e.watcher.tracker) (q : Option String) :
    ∀ e ∈ c.executions use q args named, h.Tracks e.watcher.tracker := by
  intro e he
  have hm : e.unplaced ∈ (c.executions use p args named).map Execution.unplaced := by
    rw [c.unplaced_executions use p q]
    exact List.mem_map_of_mem he
  obtain ⟨e', he', hsame⟩ := List.mem_map.1 hm
  have hw : e'.unplaced.watcher = e.unplaced.watcher := by rw [hsame]
  change e'.watcher = e.watcher at hw
  rw [← hw]
  exact ht e' he'

/-! ## Counts of replays -/

/-- An execution adds one to its name in its tracker. -/
def Execution.countsFor (t : Nat) (name : String) (e : Execution) : Bool :=
  e.watcher.tracker = t ∧ e.name = some name

theorem Recorder.get_replays {s : Recorder} {es : List Execution} {t : Nat} (ht : s.hub.Tracks t)
    (hes : ∀ e ∈ es, s.hub.Tracks e.watcher.tracker) (name : String) :
    ((es.foldl replay s).hub.registry t).get name =
      (s.hub.registry t).get name + es.countP (Execution.countsFor t name) := by
  induction es generalizing s with
  | nil => rfl
  | cons e es ih =>
    have he : s.hub.Tracks e.watcher.tracker := hes e (by simp)
    have hrest : ∀ e' ∈ es, (s.replay e).hub.Tracks e'.watcher.tracker :=
      fun e' hm => tracks_replay (hes e' (by simp [hm])) he
    have hone : ((s.replay e).hub.registry t).get name =
        (s.hub.registry t).get name + if e.countsFor t name then 1 else 0 := by
      rw [hub_replay he, Node.registry_settle he]
      by_cases hw : e.watcher.tracker = t
      · cases hn : e.name with
        | none => simp [Node.counted?, Execution.countsFor, hn]
        | some n =>
          have hrecord : (Registry.step (.record n) (s.hub.registry t)).1.get name = _ :=
            ht.1.sound.get_record ht.2 n name
          simpa [Node.counted?, Execution.countsFor, hw, hn] using hrecord
      · simp [Node.counted?, Execution.countsFor, hw]
    rw [List.foldl_cons, ih (tracks_replay ht he) hrest, hone, List.countP_cons]
    omega

theorem countP_countsFor_unplaced (t : Nat) (name : String) (es : List Execution) :
    (es.map Execution.unplaced).countP (Execution.countsFor t name) =
      es.countP (Execution.countsFor t name) :=
  List.countP_map

theorem Command.countP_executions (c : Command) (use : Use) (p q : Option String)
    (args : List Value) (named : List (String × Value)) (t : Nat) (name : String) :
    (c.executions use p args named).countP (Execution.countsFor t name) =
      (c.executions use q args named).countP (Execution.countsFor t name) := by
  rw [← countP_countsFor_unplaced, c.unplaced_executions use p q, countP_countsFor_unplaced]

/-! ## Called and awaited -/

namespace Command

/-- A coroutine function bears a name. -/
theorem exists_named_of_isCoroutine {c : Command} (hc : c.isCoroutine = true) :
    ∃ name, c.named = .ok name := by
  cases c with
  | coroutine name body => exact ⟨_, rfl⟩
  | counted i explicit target => exact ⟨_, rfl⟩
  | _ => simp [isCoroutine] at hc

theorem resolvedName_of_isCoroutine {c : Command} (hc : c.isCoroutine = true)
    (explicit : Option String) : resolvedName explicit c = .ok (resolvedName? explicit c) := by
  obtain ⟨name, hname⟩ := exists_named_of_isCoroutine hc
  have hok : ∃ name, resolvedName explicit c = .ok name := by
    cases hg : ungiven explicit with
    | true => exact ⟨name, (resolvedName_of_ungiven hg c).trans hname⟩
    | false => exact ⟨explicit, resolvedName_of_given hg c⟩
  obtain ⟨resolved, hresolved⟩ := hok
  rw [resolvedName?, hresolved]
  rfl

theorem made_of_isCoroutine (c : Command) (hc : c.isCoroutine = true) : c.made = .ok () := by
  cases c with
  | coroutine name body => rfl
  | counted i explicit target =>
    have ht : target.isCoroutine = true := hc
    rw [made, target.made_of_isCoroutine ht]
    change (resolvedName explicit target).map _ = _
    rw [resolvedName_of_isCoroutine ht]
    rfl
  | _ => simp [isCoroutine] at hc

theorem startCounted_of_isCoroutine {c : Command} (hc : c.isCoroutine = true)
    (explicit : Option String) (use : Use) :
    startCounted explicit c use =
      if use = .await then .ok (resolvedName? explicit c) else .error (.ok .pending) := by
  rw [startCounted, c.made_of_isCoroutine hc, hc]
  simp only [Except.bind, resolvedName_of_isCoroutine hc]
  cases use <;> rfl

theorem enter_of_isCoroutine {c : Command} (hc : c.isCoroutine = true) :
    c.enter = .ok c.name? := by
  have hresolve : c.resolve = .ok .itself := by
    cases c <;> simp [isCoroutine] at hc <;> rfl
  rw [enter, c.made_of_isCoroutine hc, hresolve]
  exact resolvedName_of_isCoroutine hc none

/-- What is to be awaited gives nothing yet. -/
theorem outcome_of_isCoroutine {c : Command} (hc : c.isCoroutine = true) {use : Use}
    (hu : use ≠ .await) (args : List Value) (named : List (String × Value)) :
    c.outcome use args named = .ok .pending := by
  cases c with
  | coroutine _ body => rw [outcome, gives, if_neg hu]
  | counted i explicit target =>
    have ht : target.isCoroutine = true := hc
    rw [outcome, gives, startCounted_of_isCoroutine ht, if_neg hu]
  | _ => simp [isCoroutine] at hc

theorem executions_of_isCoroutine {c : Command} (hc : c.isCoroutine = true) {use : Use}
    (hu : use ≠ .await) (parent : Option String) (args : List Value)
    (named : List (String × Value)) : c.executions use parent args named = [] := by
  cases c with
  | coroutine _ body => rw [executions, if_neg hu]
  | counted i explicit target =>
    have ht : target.isCoroutine = true := hc
    rw [executions, startCounted_of_isCoroutine ht, if_neg hu]
  | _ => simp [isCoroutine] at hc

end Command

section Coroutine
variable {c : Command} (hc : c.isCoroutine = true) {i : Interceptor} {args : List Value}
  {named : List (String × Value)} {s : Recorder} (hi : s.hub.Tracks i.tracker)
include hc hi

/-- To an interceptor, a coroutine function is done when it is called. -/
theorem Interceptor.execute_of_isCoroutine (parent : Option String) :
    i.execute c parent args named s =
      (s.replay ⟨i, c.name?, parent, .ok .pending⟩, .ok .pending) := by
  have hnone : c.executions .execute (some (spanName c.name?)) args named = [] :=
    c.executions_of_isCoroutine hc (by decide) _ args named
  have hcalled := c.apply_eq_replay .execute (some (spanName c.name?)) args named s
    (by simp [hnone])
  rw [hnone, c.outcome_of_isCoroutine hc (by decide)] at hcalled
  have hclosed := Recorder.close_eq_replay (s := s) (e := ⟨i, c.name?, parent, .ok .pending⟩) hi
  rw [Interceptor.execute, c.enter_of_isCoroutine hc]
  simp only [hcalled, List.foldl_nil, hclosed]
  rfl

theorem Interceptor.executeAndAwait_of_isCoroutine (hn : ∀ e ∈ named, e.1 ∉ reservedNames) :
    i.executeAndAwait c args named s =
      c.callAndAwait args named (i.execute c none args named s).1 := by
  rw [Interceptor.executeAndAwait, find?_reservedNames hn, Interceptor.execute_of_isCoroutine hc hi,
    Command.callAndAwait]

end Coroutine

/-- What awaiting a function that counts its calls leaves: what its target executes, and then the
call itself. -/
theorem Command.callAndAwait_counted {c : Command} (hc : c.isCoroutine = true) {i : Interceptor}
    {args : List Value} {named : List (String × Value)} {s : Recorder}
    (hi : s.hub.Tracks i.tracker)
    (ht : ∀ e ∈ c.executions .await none args named, s.hub.Tracks e.watcher.tracker) :
    let late : Execution := ⟨i, c.name?, none, c.outcome .await args named⟩
    let inside := c.executions .await (some (spanName c.name?)) args named ++ [late]
    (∀ e ∈ inside, s.hub.Tracks e.watcher.tracker) ∧
    (counted i none c).callAndAwait args named s =
      (inside.foldl Recorder.replay s, late.leaving) := by
  intro late inside
  have hended : (counted i none c).executions .await none args named = inside := by
    rw [executions, startCounted_of_isCoroutine hc, if_pos rfl]
    rfl
  have hleaving : (counted i none c).outcome .await args named = late.leaving := by
    rw [outcome, gives, startCounted_of_isCoroutine hc, if_pos rfl]
    rfl
  have hinside : ∀ e ∈ inside, s.hub.Tracks e.watcher.tracker := by
    intro e he
    obtain he | he := List.mem_append.1 he
    · exact tracks_executions ht _ e he
    · rw [List.mem_singleton.1 he]
      exact hi
  have hreplay := (counted i none c).apply_eq_replay .await none args named s (by rwa [hended])
  rw [hended, hleaving] at hreplay
  exact ⟨hinside, hreplay⟩

/-- An interceptor that executes a coroutine function counts it and finishes its span, with a good
status, before anything of the body has run and whatever the body will do; awaiting then adds what
the body itself executes. A function that wraps the command counts and finishes its span after all
of these, and the span tells how the body ended. Both leave the same counts in the end, and both
give what the command gives when nothing is counted if all exceptions in it can be read. -/
theorem coroutine_counted_before_it_runs {c : Command} (hc : c.isCoroutine = true)
    (i : Interceptor) (args : List Value) {named : List (String × Value)}
    (hn : ∀ e ∈ named, e.1 ∉ reservedNames) {s : Recorder} (hi : s.hub.Tracks i.tracker)
    (ht : ∀ e ∈ c.executions .await none args named, s.hub.Tracks e.watcher.tracker) :
    let early : Execution := ⟨i, c.name?, none, .ok .pending⟩
    let late : Execution := ⟨i, c.name?, none, c.outcome .await args named⟩
    let outside := c.executions .await none args named
    let inside := c.executions .await (some (spanName c.name?)) args named
    let called := i.execute c none args named s
    let awaited := i.executeAndAwait c args named s
    let wrapped := (Command.counted i none c).callAndAwait args named s
    called = (s.replay early, .ok .pending) ∧
    called.1.spans = s.spans ++ [early.span] ∧ early.span.status = .ok ∧
    (∀ name, (called.1.hub.registry i.tracker).get name =
      (s.hub.registry i.tracker).get name + if c.name? = some name then 1 else 0) ∧
    awaited = c.callAndAwait args named called.1 ∧
    awaited = (outside.foldl Recorder.replay called.1, late.result) ∧
    awaited.1.spans = called.1.spans ++ outside.map Execution.span ∧
    wrapped = ((inside ++ [late]).foldl Recorder.replay s, late.leaving) ∧
    wrapped.1.spans = s.spans ++ inside.map Execution.span ++ [late.span] ∧
    late.ToldBy late.span ∧
    (c.readable = true →
      awaited.2 = c.bare .await args named ∧ wrapped.2 = c.bare .await args named) ∧
    ∀ t, s.hub.Tracks t → ∀ name,
      (awaited.1.hub.registry t).get name = (wrapped.1.hub.registry t).get name := by
  intro early late outside inside called awaited wrapped
  have hcalled : called = (s.replay early, .ok .pending) := i.execute_of_isCoroutine hc hi none
  have hearly : s.hub.Tracks early.watcher.tracker := hi
  have hstate : called.1 = s.replay early := by rw [hcalled]
  have hspans : called.1.spans = s.spans ++ [early.span] := by
    rw [hstate, Recorder.spans_replay hearly]
  have hawaited : awaited = c.callAndAwait args named called.1 :=
    i.executeAndAwait_of_isCoroutine hc hi hn
  have houtside : ∀ e ∈ outside, called.1.hub.Tracks e.watcher.tracker := by
    intro e he
    rw [hstate]
    exact Recorder.tracks_replay (ht e he) hearly
  have hreplayed : awaited = (outside.foldl Recorder.replay called.1, late.result) :=
    hawaited.trans (c.apply_eq_replay .await none args named called.1 houtside)
  obtain ⟨hinside, hwrapped⟩ := Command.callAndAwait_counted hc hi ht
  change wrapped = ((inside ++ [late]).foldl Recorder.replay s, late.leaving) at hwrapped
  refine ⟨hcalled, hspans, rfl, ?_, hawaited, hreplayed, ?_, hwrapped, ?_,
    late.toldBy_span (resolvedName?_ne_empty none c), fun hread => ⟨?_, ?_⟩, ?_⟩
  · intro name
    have hone := Recorder.get_replays hi (List.forall_mem_singleton.2 hearly) name
    rw [hstate]
    simpa [List.countP_cons, Execution.countsFor, early] using hone
  · rw [hreplayed]
    exact Recorder.spans_replays houtside
  · rw [hwrapped, Recorder.spans_replays hinside, List.map_append, List.append_assoc]
    rfl
  · exact (congrArg Prod.snd hreplayed).trans (Command.outcome_of_readable hread .await args named)
  · exact (congrArg Prod.snd hwrapped).trans ((c.leaving_alike .await args named).eq hread)
  · intro t hs name
    have hfirst : awaited.1 = (early :: outside).foldl Recorder.replay s := by
      rw [hreplayed, hstate, List.foldl_cons]
    have hall : ∀ e ∈ early :: outside, s.hub.Tracks e.watcher.tracker :=
      List.forall_mem_cons.2 ⟨hearly, ht⟩
    have hbelow : outside.countP (Execution.countsFor t name) =
        inside.countP (Execution.countsFor t name) :=
      c.countP_executions .await _ _ args named t name
    have hsame : early.countsFor t name = late.countsFor t name := rfl
    rw [hfirst, hwrapped, Recorder.get_replays hs hall, Recorder.get_replays hs hinside,
      List.countP_append, List.countP_cons, List.countP_singleton, hbelow, hsame]

/-- Loading raises an exception. -/
def failingLoad : Command :=
  .coroutine "load" (.finish (.raises (.saying "ValueError" "full" true)))

theorem failing_load_counted_before_it_runs :
    let i : Interceptor := ⟨0, defaultTracer⟩
    let s : Recorder := ⟨⟨[Registry.emptyTracker], []⟩, [], []⟩
    let called := i.execute failingLoad none [] [] s
    let awaited := i.executeAndAwait failingLoad [] [] s
    let wrapped := (Command.counted i none failingLoad).callAndAwait [] [] s
    (called.1.hub.registry 0).get "load" = 1 ∧ called.1.spans.map Span.status = [.ok] ∧
    awaited.2 = .error (.saying "ValueError" "full" true) ∧ wrapped.2 = awaited.2 ∧
    awaited.1.spans.map Span.status = [.ok] ∧ wrapped.1.spans.map Span.status = [.error] ∧
    (awaited.1.hub.registry 0).get "load" = (wrapped.1.hub.registry 0).get "load" := by
  intro i s called awaited wrapped
  have hi : s.hub.Tracks i.tracker := ⟨⟨Registry.commandKind, true, [], rfl⟩, rfl⟩
  have hnone : failingLoad.executions .await none [] [] = [] := rfl
  have hbody : ∀ e ∈ failingLoad.executions .await none [] [], s.hub.Tracks e.watcher.tracker := by
    simp [hnone]
  have hn : ∀ e ∈ ([] : List (String × Value)), e.1 ∉ reservedNames := by simp
  obtain ⟨-, hearly, -, hcount, -, -, hafter, -, hlate, -, hbare, hsame⟩ :=
    coroutine_counted_before_it_runs (rfl : failingLoad.isCoroutine = true) i [] hn hi hbody
  obtain ⟨hawaited, hwrapped⟩ := hbare rfl
  refine ⟨hcount "load", ?_, hawaited, hwrapped.trans hawaited.symm, ?_, ?_, hsame 0 hi "load"⟩
  · rw [hearly]
    rfl
  · rw [hafter, hearly]
    rfl
  · rw [hlate]
    rfl

end UsageMeter
