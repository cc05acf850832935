import UsageMeter.Proofs.Command.Given
import UsageMeter.Proofs.Command.Root

/-!
Spans beside counts. Every execution that comes to its end finishes one span, which says how its
target ended, and adds one to its tracker if it has a name; so counts can be read off the spans.
-/
namespace UsageMeter

/-- An interceptor takes all arguments whose names are not those of its own parameters. -/
theorem find?_reservedNames {named : List (String × Value)}
    (hn : ∀ e ∈ named, e.1 ∉ reservedNames) :
    named.find? (fun e => reservedNames.contains e.1) = none := by
  rw [List.find?_eq_none]
  intro e he
  simpa using hn e he

/-- How executions start outside any span: by an interceptor, or by calling a function that counts
its calls. What is to be awaited is awaited. -/
inductive Launch where
  | executed (i : Interceptor) (c : Command) (args : List Value) (named : List (String × Value))
  | called (i : Interceptor) (explicit : Option String) (target : Command) (args : List Value)
    (named : List (String × Value))

namespace Launch

def run (l : Launch) (s : Recorder) : Recorder × Outcome :=
  match l with
  | .executed i c args named => i.executeAndAwait c args named s
  | .called i explicit target args named =>
    (Command.counted i explicit target).callAndAwait args named s

def runAll (launches : List Launch) (s : Recorder) : Recorder :=
  launches.foldl (fun s l => (l.run s).1) s

/-- The executions that end in a launch. An interceptor that has been given one of its own
parameters by name executes nothing, and what it leaves to be awaited runs after its own span. -/
def executions : Launch → List Execution
  | .executed i c args named =>
    match named.find? fun e => reservedNames.contains e.1 with
    | some _ => []
    | none =>
      i.executions c none args named ++
        match c.executed args named with
        | .ok .pending => c.executions .await none args named
        | _ => []
  | .called i explicit target args named =>
    (Command.counted i explicit target).executions .await none args named

theorem run_eq_replay (l : Launch) {s : Recorder}
    (ht : ∀ e ∈ l.executions, s.hub.Tracks e.watcher.tracker) :
    (l.run s).1 = l.executions.foldl Recorder.replay s := by
  cases l with
  | called i explicit target args named =>
    rw [executions] at ht ⊢
    rw [run, Command.callAndAwait, Command.apply_eq_replay _ _ _ _ _ _ ht]
  | executed i c args named =>
    rw [executions] at ht ⊢
    rw [run, Interceptor.executeAndAwait]
    cases hr : named.find? fun e => reservedNames.contains e.1 with
    | some e => rfl
    | none =>
      simp only [hr] at ht ⊢
      have hfirst := fun e hm => ht e (List.mem_append_left _ hm)
      have hexecute := Interceptor.execute_eq_replay hfirst
        (c.apply_eq_replay .execute (some (spanName c.name?)) args named s)
      rw [hexecute]
      cases hresult : c.executed args named with
      | error e => simp
      | ok reply =>
        cases reply with
        | pending =>
          simp only [hresult] at ht ⊢
          have hsecond := c.apply_eq_replay .await none args named
            ((i.executions c none args named).foldl Recorder.replay s) fun e hm =>
              Recorder.tracks_replays (ht e (List.mem_append_right _ hm)) hfirst
          rw [hsecond, List.foldl_append]
        | value v => simp
        | instanceOf className => simp

theorem runAll_eq_replay (launches : List Launch) {s : Recorder}
    (ht : ∀ e ∈ launches.flatMap executions, s.hub.Tracks e.watcher.tracker) :
    runAll launches s = (launches.flatMap executions).foldl Recorder.replay s := by
  induction launches generalizing s with
  | nil => rfl
  | cons l launches ih =>
    rw [List.flatMap_cons] at ht ⊢
    have hl := fun e hm => ht e (List.mem_append_left _ hm)
    rw [List.foldl_append, ← l.run_eq_replay hl]
    refine ih fun e hm => ?_
    change (l.run s).1.hub.Tracks e.watcher.tracker
    rw [l.run_eq_replay hl]
    exact Recorder.tracks_replays (ht e (List.mem_append_right _ hm)) hl

/-- Nobody gave a name to the functions in a launch that count their calls in a tracker. -/
def selfNamed (t : Nat) : Launch → Bool
  | .executed _ c _ _ => c.selfNamed t
  | .called i explicit target _ _ => (Command.counted i explicit target).selfNamed t

theorem named_executions (t : Nat) (l : Launch) :
    ∀ e ∈ l.executions, e.Named t (l.selfNamed t) := by
  intro e he
  cases l with
  | called i explicit target args named =>
    exact (Command.counted i explicit target).named_executions t .await none args named e he
  | executed i c args named =>
    rw [executions] at he
    split at he
    · exact absurd he List.not_mem_nil
    · obtain he | he := List.mem_append.1 he
      · exact Interceptor.named_executions (c.named_executions t .execute _ args named) e he
      · split at he
        · exact c.named_executions t .await none args named e he
        · exact absurd he List.not_mem_nil

end Launch

/-! ## Spans of executions -/

def Execution.span (e : Execution) : Span :=
  Span.finished e.name e.parent e.watcher.tracer e.result

/-- The command that a span names. -/
def Span.command? (x : Span) : Option String :=
  (x.attributes.lookup commandAttribute).bind Value.text?

/-- A span has none of the attributes that tell of an error. -/
def Span.Unharmed (x : Span) : Prop :=
  ∀ a ∈ ["error", "error.type", "error.message"], x.attributes.lookup a = none

/-- What a span tells of an execution. Of an ordinary exception whose text cannot be read nothing is
said. -/
structure Execution.ToldBy (e : Execution) (x : Span) : Prop where
  command : x.attributes.lookup commandAttribute = e.name.map Value.str
  anonymous : e.name = none ↔
    x.name = "command.anonymous" ∧ x.attributes.lookup commandAttribute = none
  returned : ∀ reply, e.result = .ok reply → x.status = .ok ∧ x.Unharmed
  failed : ∀ error text, e.result = .error error → error.ordinary = true →
    error.text? = .ok text → e.leaving = .error error ∧ x.status = .error ∧
    x.attributes.lookup "error" = some (.bool true) ∧
    x.attributes.lookup "error.type" = some (.str error.kind) ∧
    x.attributes.lookup "error.message" = some (.str text)
  stopped : ∀ error, e.result = .error error → error.ordinary = false →
    x.status = .unset ∧ x.Unharmed

theorem lookup_commandAttributes {name : Option String} (h : name ≠ some "") :
    (commandAttributes name).lookup commandAttribute = name.map Value.str := by
  cases name with
  | none => rfl
  | some name =>
    have hne : name ≠ "" := fun he => h (he ▸ rfl)
    rw [commandAttributes, if_neg hne]
    rfl

theorem lookup_commandAttributes_of_ne {a : String} (ha : a ≠ commandAttribute)
    (name : Option String) : (commandAttributes name).lookup a = none := by
  cases name with
  | none => rfl
  | some name =>
    rw [commandAttributes]
    split
    · rfl
    · simp [lookup_cons_ite, ha]

theorem spanName_eq_anonymous_iff {name : Option String} (h : name ≠ some "") :
    spanName name = anonymousSpan ∧ name.map Value.str = none ↔ name = none := by
  cases name with
  | none => exact iff_of_true ⟨rfl, rfl⟩ rfl
  | some name => simp

/-- What a span says of the exception that ends an execution. -/
def Execution.marks (e : Execution) : List (String × Value) :=
  match e.result with
  | .ok _ => []
  | .error error => if error.ordinary then errorAttributes error else []

theorem attributes_failing (x : Span) (e : Raised) (description : String → String) :
    (x.failing e description).attributes = x.attributes := by
  rw [Span.failing]
  cases e.text? with
  | error other => rfl
  | ok text =>
    dsimp only
    split <;> rfl

namespace Execution
variable (e : Execution)

/-- The span of an execution has its command's attributes first, and after them those of an
ordinary exception. -/
theorem attributes_span : e.span.attributes = commandAttributes e.name ++ e.marks := by
  have hpassed : ∀ (x : Span) (r : Outcome), (x.passed r).attributes = x.attributes := by
    intro x r
    cases r with
    | ok reply => rfl
    | error error =>
      rw [Span.passed]
      split
      · exact attributes_failing x error _
      · rfl
  rw [span, Span.finished, hpassed, marks]
  cases e.result with
  | ok reply => exact (List.append_nil _).symm
  | error error =>
    cases ho : error.ordinary with
    | true =>
      simp only [Span.told, ho, if_true, attributes_failing]
      rfl
    | false =>
      simp only [Span.told, ho, Bool.false_eq_true, if_false]
      exact (List.append_nil _).symm

theorem lookup_marks : e.marks.lookup commandAttribute = none := by
  rw [marks]
  split
  · rfl
  · split
    · rw [errorAttributes]
      split <;> rfl
    · rfl

theorem unharmed_span (h : e.marks = []) : e.span.Unharmed := by
  intro a ha
  have hne : a ≠ commandAttribute := by
    rintro rfl
    revert ha
    decide
  rw [attributes_span, h, List.append_nil, lookup_commandAttributes_of_ne hne]

variable {e}

theorem command_span (h : e.name ≠ some "") :
    e.span.attributes.lookup commandAttribute = e.name.map Value.str := by
  rw [attributes_span, List.lookup_append, lookup_commandAttributes h, lookup_marks,
    Option.or_none]

theorem status_of_ok {reply : Reply} (hr : e.result = .ok reply) : e.span.status = .ok := by
  rw [span, hr]
  rfl

theorem status_of_saying {kind text : String}
    (hr : e.result = .error (.saying kind text true)) : e.span.status = .error := by
  rw [span, hr]
  rfl

theorem status_of_not_ordinary {error : Raised} (hr : e.result = .error error)
    (ho : error.ordinary = false) : e.span.status = .unset := by
  have hread : error.whenRead = error := by
    cases error with
    | saying kind text ordinary => rfl
    | mute kind ordinary onText =>
      cases ho
      rfl
  rw [span, hr, Span.finished, Except.mapError, hread]
  simp only [Span.told, Span.passed, ho]
  rfl

theorem toldBy_span (h : e.name ≠ some "") : e.ToldBy e.span := by
  have hcommand := command_span h
  have hname : e.span.name = spanName e.name :=
    congrArg Prod.fst (label_finished e.name e.parent e.watcher.tracer e.result)
  refine ⟨hcommand, ?_, ?_, ?_, ?_⟩
  · rw [hcommand, hname]
    exact (spanName_eq_anonymous_iff h).symm
  · intro reply hr
    refine ⟨status_of_ok hr, e.unharmed_span ?_⟩
    rw [marks, hr]
  · intro error text hr ho ht
    obtain ⟨kind, said, ordinary⟩ | _ := error
    · cases ho
      cases ht
      have hmarks : e.marks = errorAttributes (.saying kind text true) := by
        rw [marks, hr]
        rfl
      refine ⟨by rw [leaving, hr]; rfl, status_of_saying hr, ?_⟩
      rw [attributes_span, hmarks]
      simp only [List.lookup_append, lookup_commandAttributes_of_ne (show "error" ≠ _ by decide),
        lookup_commandAttributes_of_ne (show "error.type" ≠ _ by decide),
        lookup_commandAttributes_of_ne (show "error.message" ≠ _ by decide), Option.none_or]
      exact ⟨rfl, rfl, rfl⟩
    · cases ht
  · intro error hr ho
    refine ⟨status_of_not_ordinary hr ho, e.unharmed_span ?_⟩
    rw [marks, hr]
    exact if_neg (by simp [ho])

end Execution

/-! ## What a replay leaves -/

namespace Recorder
variable {s : Recorder}

theorem spans_replay {e : Execution} (ht : s.hub.Tracks e.watcher.tracker) :
    (s.replay e).spans = s.spans ++ [e.span] := by
  rw [replay, close_of_tracks ht]
  cases hn : e.name <;> simp [count, finish, Execution.span, hn]

theorem spans_replays {es : List Execution} (ht : ∀ e ∈ es, s.hub.Tracks e.watcher.tracker) :
    (es.foldl replay s).spans = s.spans ++ es.map Execution.span := by
  induction es generalizing s with
  | nil => simp
  | cons e es ih =>
    have he : s.hub.Tracks e.watcher.tracker := ht e (by simp)
    have hes : ∀ e' ∈ es, (s.replay e).hub.Tracks e'.watcher.tracker :=
      fun e' hm => tracks_replay (ht e' (by simp [hm])) he
    rw [List.foldl_cons, ih hes, spans_replay he, List.map_cons, List.append_assoc]
    rfl

end Recorder

end UsageMeter
