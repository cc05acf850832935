import UsageMeter.Proofs.Logging.Delivery

/-!
Which loggers carry a handler, told from the history. A setup never changes in its level, resource,
logger and processor. Its handler is put on one logger after the other, and its shutdown takes it
off the logger for which the setup was made and off no other.
-/
namespace UsageMeter.Logging

/-- What of a setup stays for good. -/
def Setup.terms (s : Setup) : Int × Resource × String × Processor :=
  (s.level, s.resource, s.loggerName, s.processor)

namespace Router
variable {r : Router}

/-! ## Setups -/

theorem setups_attach (r : Router) (i : Nat) (name : String) :
    (r.attach i name).setups = r.setups := by
  rw [attach]
  cases (r.touch name).setups[i]? <;> rfl

theorem setups_configure (r : Router) (d : Destination) (static : StaticData)
    (extra : List (String × Value)) (level : Int) (loggerName : String) :
    (r.step (.configure (some d) static extra level loggerName)).setups =
      r.setups ++ [⟨level, resourceOf r.sdk static extra, loggerName,
        d.processorFor r.setups.length, true⟩] :=
  setups_attach _ r.setups.length loggerName

theorem setups_shutdown {i : Nat} {s : Setup} (hs : r.setups[i]? = some s) :
    (r.shutdown i).setups =
      r.setups.set i ⟨s.level, s.resource, s.loggerName, s.processor, false⟩ := by
  rw [shutdown, hs]
  cases hc : (r.logger s.loggerName).handlers.contains i <;> simp only [hc] <;> rfl

theorem map_terms_shutdown (r : Router) (i : Nat) :
    (r.shutdown i).setups.map Setup.terms = r.setups.map Setup.terms := by
  cases hs : r.setups[i]? with
  | none => rw [shutdown, hs]
  | some s =>
    have hterms : (r.setups.map Setup.terms)[i]? = some s.terms := by
      rw [List.getElem?_map, hs]
      rfl
    rw [setups_shutdown hs, List.map_set]
    exact set_of_getElem? hterms

/-- Setups are added at the end and keep their terms. -/
theorem map_terms_step (r : Router) (op : Op) :
    r.setups.map Setup.terms <+: (r.step op).setups.map Setup.terms := by
  cases op with
  | get name => exact List.prefix_rfl
  | configure destination static extra level loggerName =>
    cases destination with
    | none => exact List.prefix_rfl
    | some d =>
      rw [setups_configure, List.map_append]
      exact List.prefix_append _ _
  | attach i name =>
    have he : (r.step (.attach i name)).setups = r.setups := r.setups_attach i name
    simp only [he, List.prefix_rfl]
  | shutdown i =>
    have he := r.map_terms_shutdown i
    simp only [step, he, List.prefix_rfl]
  | log c =>
    have he : (r.step (.log c)).setups = r.setups := r.setups_log c
    simp only [he, List.prefix_rfl]

theorem map_terms_run (r : Router) (ops : List Op) :
    r.setups.map Setup.terms <+: (r.run ops).setups.map Setup.terms := by
  induction ops generalizing r with
  | nil => exact List.prefix_rfl
  | cons op ops ih => exact (r.map_terms_step op).trans (ih (r.step op))

theorem length_setups_run (r : Router) (ops : List Op) :
    r.setups.length ≤ (r.run ops).setups.length := by
  simpa using (r.map_terms_run ops).length_le

/-- A setup is there after a run, on the terms on which it was before. -/
theorem setup_run {i : Nat} {s : Setup} (hs : r.setups[i]? = some s) (ops : List Op) :
    ∃ s', (r.run ops).setups[i]? = some s' ∧ s'.terms = s.terms := by
  obtain ⟨rest, hrest⟩ := r.map_terms_run ops
  have hlt : i < (r.setups.map Setup.terms).length := by
    rw [List.length_map]
    exact (List.getElem?_eq_some_iff.1 hs).1
  have hterms : ((r.run ops).setups.map Setup.terms)[i]? = some s.terms := by
    rw [← hrest, List.getElem?_append_left hlt, List.getElem?_map, hs]
    rfl
  rw [List.getElem?_map] at hterms
  exact Option.map_eq_some_iff.1 hterms

/-! ## Handlers after one operation -/

theorem logger_eq_of_canonical {a b : String} (h : canonical a = canonical b) (r : Router) :
    r.logger a = r.logger b := by
  rw [logger, logger, Loggers.find, Loggers.find, h]

theorem logger_touch (r : Router) (name other : String) :
    ∃ parent, (r.touch name).logger other = (r.logger other).under parent :=
  Loggers.find_create r.loggers name other

/-- A logger to which a setup is attached takes over its level, and the others stay as they are but
for their place in the tree. -/
theorem logger_attach {i : Nat} {s : Setup} (hs : r.setups[i]? = some s) (name other : String) :
    ∃ parent, (r.attach i name).logger other =
      if canonical other = canonical name then
        ⟨s.level, false, if (r.logger other).handlers.contains i then (r.logger other).handlers
          else (r.logger other).handlers ++ [i], parent, (r.logger other).listened⟩
      else (r.logger other).under parent := by
  have hs' : (r.touch name).setups[i]? = some s := hs
  obtain ⟨parent, ho⟩ := r.logger_touch name other
  refine ⟨parent, ?_⟩
  simp only [attach, hs', logger, setLogger, loggers_withLoggers, Loggers.find_put]
  by_cases hn : canonical other = canonical name
  · have hsame := (r.touch name).logger_eq_of_canonical hn
    rw [logger, logger] at hsame
    rw [logger] at ho
    simp only [hn, if_true, ← hsame, ho]
    rfl
  · simp only [hn, if_false]
    exact ho

theorem logger_log (r : Router) (c : Call) (other : String) :
    ∃ parent, (r.log c).1.logger other = (r.logger other).under parent := by
  rw [log_fst, logger, loggers_deliverAll]
  exact r.logger_touch c.logger other

theorem attach_of_none {i : Nat} (hs : r.setups[i]? = none) (name : String) :
    r.attach i name = r.touch name := by
  have hs' : (r.touch name).setups[i]? = none := hs
  simp only [attach, hs']

/-- A shutdown takes the handler off the logger for which the setup was made. -/
theorem logger_shutdown {i : Nat} {s : Setup} (hs : r.setups[i]? = some s) (other : String) :
    (r.shutdown i).logger other =
      if canonical other = canonical s.loggerName then
        ⟨(r.logger other).level, (r.logger other).propagate, (r.logger other).handlers.erase i,
          (r.logger other).parent, (r.logger other).listened⟩
      else r.logger other := by
  rw [shutdown, hs]
  by_cases hn : canonical other = canonical s.loggerName
  · rw [if_pos hn, r.logger_eq_of_canonical hn]
    by_cases hc : (r.logger s.loggerName).handlers.contains i = true
    · simp only [hc, if_true]
      exact (Loggers.find_put r.loggers s.loggerName _ other).trans (if_pos hn)
    · have hm : i ∉ (r.logger s.loggerName).handlers := fun hm => hc (List.contains_iff_mem.2 hm)
      simp only [hc, Bool.false_eq_true, if_false, List.erase_of_not_mem hm]
      exact r.logger_eq_of_canonical hn
  · rw [if_neg hn]
    by_cases hc : (r.logger s.loggerName).handlers.contains i = true
    · simp only [hc, if_true]
      exact (Loggers.find_put r.loggers s.loggerName _ other).trans (if_neg hn)
    · simp only [hc, Bool.false_eq_true, if_false]
      rfl

/-- An operation puts the handler of a setup on a logger. -/
def Op.attaches (r : Router) (i : Nat) (name : String) : Op → Prop
  | .configure (some _) _ _ _ loggerName =>
    i = r.setups.length ∧ canonical loggerName = canonical name
  | .attach j loggerName => j = i ∧ i < r.setups.length ∧ canonical loggerName = canonical name
  | _ => False

/-- An operation takes the handler of a setup off a logger. -/
def Op.detaches (r : Router) (i : Nat) (name : String) : Op → Prop
  | .shutdown j => j = i ∧ ∃ s, r.setups[i]? = some s ∧ canonical s.loggerName = canonical name
  | _ => False

theorem handlers_touch (r : Router) (name other : String) :
    ((r.touch name).logger other).handlers = (r.logger other).handlers := by
  obtain ⟨parent, he⟩ := r.logger_touch name other
  rw [he]
  rfl

theorem mem_handlers_attach (r : Router) (j : Nat) (loggerName : String) (i : Nat)
    (name : String) :
    i ∈ ((r.attach j loggerName).logger name).handlers ↔
      (j = i ∧ i < r.setups.length ∧ canonical loggerName = canonical name) ∨
        i ∈ (r.logger name).handlers := by
  cases hs : r.setups[j]? with
  | none =>
    have hlength : r.setups.length ≤ j := List.getElem?_eq_none_iff.1 hs
    have hno : ¬(j = i ∧ i < r.setups.length ∧ canonical loggerName = canonical name) := by
      rintro ⟨rfl, hlt, -⟩
      omega
    rw [attach_of_none hs, handlers_touch, or_iff_right hno]
  | some s =>
    have hlt : j < r.setups.length := (List.getElem?_eq_some_iff.1 hs).1
    obtain ⟨parent, hl⟩ := logger_attach hs loggerName name
    rw [hl]
    by_cases hn : canonical name = canonical loggerName
    · simp only [hn, if_true, and_true]
      by_cases hc : (r.logger name).handlers.contains j = true
      · have hm := List.contains_iff_mem.1 hc
        simp only [hc, if_true]
        constructor
        · exact Or.inr
        · rintro (⟨rfl, -⟩ | hi)
          · exact hm
          · exact hi
      · simp only [hc, Bool.false_eq_true, if_false, List.mem_append, List.mem_singleton]
        constructor
        · rintro (hi | rfl)
          · exact Or.inr hi
          · exact Or.inl ⟨rfl, hlt⟩
        · rintro (⟨rfl, -⟩ | hi)
          · exact Or.inr rfl
          · exact Or.inl hi
    · simp only [hn, Ne.symm hn, if_false, and_false, false_or]
      rfl

theorem mem_handlers_shutdown (h : r.Sound) (j i : Nat) (name : String) :
    i ∈ ((r.shutdown j).logger name).handlers ↔ i ∈ (r.logger name).handlers ∧
      ¬(j = i ∧ ∃ s, r.setups[i]? = some s ∧ canonical s.loggerName = canonical name) := by
  cases hs : r.setups[j]? with
  | none =>
    have hno : ¬(j = i ∧ ∃ s, r.setups[i]? = some s ∧ canonical s.loggerName = canonical name) := by
      rintro ⟨rfl, s, hs', -⟩
      rw [hs] at hs'
      cases hs'
    rw [shutdown, hs, and_iff_left hno]
  | some s =>
    rw [logger_shutdown hs]
    by_cases hn : canonical name = canonical s.loggerName
    · simp only [hn, if_true, (h.distinct name).mem_erase_iff]
      constructor
      · rintro ⟨hne, hm⟩
        exact ⟨hm, fun he => hne he.1.symm⟩
      · rintro ⟨hm, hno⟩
        refine ⟨?_, hm⟩
        rintro rfl
        exact hno ⟨rfl, s, hs, rfl⟩
    · have hno : ¬(j = i ∧
          ∃ s, r.setups[i]? = some s ∧ canonical s.loggerName = canonical name) := by
        rintro ⟨rfl, s', hs', hn'⟩
        rw [hs] at hs'
        cases hs'
        exact hn hn'.symm
      rw [if_neg hn, and_iff_left hno]

/-- A handler is on a logger if the last operation put it there, or if it was there and was not
taken off. -/
theorem mem_handlers_step (h : r.Sound) (op : Op) (i : Nat) (name : String) :
    i ∈ ((r.step op).logger name).handlers ↔
      op.attaches r i name ∨ i ∈ (r.logger name).handlers ∧ ¬op.detaches r i name := by
  cases op with
  | get other => simp [step, r.handlers_touch other name, Op.attaches, Op.detaches]
  | configure destination static extra level loggerName =>
    cases destination with
    | none => simp [step, configure, Op.attaches, Op.detaches]
    | some d =>
      let s : Setup :=
        ⟨level, resourceOf r.sdk static extra, loggerName, d.processorFor r.setups.length, true⟩
      have hm := mem_handlers_attach (r.withSetups (r.setups ++ [s])) r.setups.length loggerName i
        name
      have hlength : (r.setups ++ [s]).length = r.setups.length + 1 := List.length_append
      simp only [setups_withSetups, hlength] at hm
      simp only [step, configure, Op.attaches, Op.detaches, not_false_eq_true, and_true]
      refine hm.trans (or_congr_left ⟨?_, ?_⟩)
      · rintro ⟨he, -, hn⟩
        exact ⟨he.symm, hn⟩
      · rintro ⟨he, hn⟩
        exact ⟨he.symm, by omega, hn⟩
  | attach j loggerName =>
    have hm := r.mem_handlers_attach j loggerName i name
    simpa only [step, Op.attaches, Op.detaches, not_false_eq_true, and_true] using hm
  | shutdown j =>
    have hm := mem_handlers_shutdown h j i name
    simpa only [step, Op.attaches, Op.detaches, false_or] using hm
  | log c =>
    obtain ⟨parent, hl⟩ := r.logger_log c name
    simp [step, hl, Logger.under, Op.attaches, Op.detaches]

/-! ## Handlers after a run -/

/-- A setup that was there was attached to a logger by one of some operations. -/
def attachedIn (r : Router) (ops : List Op) (i : Nat) (name : String) : Prop :=
  ∃ before loggerName after, ops = before ++ .attach i loggerName :: after ∧
    i < (r.run before).setups.length ∧ canonical loggerName = canonical name

theorem attachedIn_nil (r : Router) (i : Nat) (name : String) : ¬r.attachedIn [] i name := by
  rintro ⟨before, loggerName, after, he, -⟩
  cases before <;> cases he

theorem attachedIn_cons (r : Router) (op : Op) (ops : List Op) (i : Nat) (name : String) :
    r.attachedIn (op :: ops) i name ↔
      (∃ loggerName, op = .attach i loggerName ∧ i < r.setups.length ∧
        canonical loggerName = canonical name) ∨ (r.step op).attachedIn ops i name := by
  constructor
  · rintro ⟨before, loggerName, after, he, hlt, hn⟩
    cases before with
    | nil =>
      cases he
      exact Or.inl ⟨loggerName, rfl, hlt, hn⟩
    | cons first before =>
      cases he
      exact Or.inr ⟨before, loggerName, after, rfl, hlt, hn⟩
  · rintro (⟨loggerName, rfl, hlt, hn⟩ | ⟨before, loggerName, after, rfl, hlt, hn⟩)
    · exact ⟨[], loggerName, ops, rfl, hlt, hn⟩
    · exact ⟨op :: before, loggerName, after, rfl, hlt, hn⟩

/-- Only by being attached does a handler come to a logger other than its own. -/
theorem attaches_iff_of_ne {op : Op} {i : Nat} {name : String}
    (hn : ∀ s, (r.step op).setups[i]? = some s → canonical s.loggerName ≠ canonical name) :
    op.attaches r i name ↔ ∃ loggerName, op = .attach i loggerName ∧ i < r.setups.length ∧
      canonical loggerName = canonical name := by
  cases op with
  | configure destination static extra level loggerName =>
    cases destination with
    | none => simp [Op.attaches]
    | some d =>
      simp only [Op.attaches, reduceCtorEq, false_and, exists_false, iff_false]
      rintro ⟨rfl, he⟩
      refine hn ⟨level, resourceOf r.sdk static extra, loggerName,
        d.processorFor r.setups.length, true⟩ ?_ he
      rw [setups_configure, List.getElem?_concat_length]
  | attach j loggerName =>
    simp only [Op.attaches, Op.attach.injEq]
    constructor
    · rintro ⟨rfl, hlt, he⟩
      exact ⟨loggerName, ⟨rfl, rfl⟩, hlt, he⟩
    · rintro ⟨_, ⟨rfl, rfl⟩, hlt, he⟩
      exact ⟨rfl, hlt, he⟩
  | get other | shutdown j | log c => simp [Op.attaches]

/-- The handler of a setup is on a logger other than its own just if it was there or was attached
since, for a shutdown does not take it off. -/
theorem mem_handlers_run (h : r.Sound) {ops : List Op} {i : Nat} {s : Setup}
    (hs : (r.run ops).setups[i]? = some s) {name : String}
    (hn : canonical name ≠ canonical s.loggerName) :
    i ∈ ((r.run ops).logger name).handlers ↔
      i ∈ (r.logger name).handlers ∨ r.attachedIn ops i name := by
  induction ops generalizing r with
  | nil =>
    rw [or_iff_left (r.attachedIn_nil i name)]
    rfl
  | cons op ops ih =>
    have hown : ∀ (r' : Router) (ops' : List Op) (s' : Setup), r'.setups[i]? = some s' →
        r'.run ops' = r.run (op :: ops) → canonical s'.loggerName ≠ canonical name := by
      intro r' ops' s' hs' hrun
      obtain ⟨last, hlast, hterms⟩ := setup_run hs' ops'
      rw [hrun, hs] at hlast
      cases hlast
      have hname : s.loggerName = s'.loggerName := congrArg (fun t => t.2.2.1) hterms
      rw [← hname]
      exact Ne.symm hn
    have hkept : ¬op.detaches r i name := by
      cases op with
      | shutdown j =>
        rintro ⟨rfl, s', hs', he⟩
        exact hown r (.shutdown j :: ops) s' hs' rfl he
      | _ => exact not_false
    have hstep := mem_handlers_step h op i name
    rw [attaches_iff_of_ne fun s' hs' => hown (r.step op) ops s' hs' rfl,
      and_iff_left hkept] at hstep
    have hrest := ih (h.step op) hs
    rw [hstep] at hrest
    rw [attachedIn_cons]
    exact hrest.trans (or_assoc.trans or_left_comm)

/-- A handler that is not on a logger does not come to it unless it is attached. -/
theorem not_mem_handlers_run (h : r.Sound) {i : Nat} {name : String} {ops : List Op}
    (hlt : i < r.setups.length) (hm : i ∉ (r.logger name).handlers)
    (hops : ∀ loggerName, .attach i loggerName ∉ ops) :
    i ∉ ((r.run ops).logger name).handlers := by
  induction ops generalizing r with
  | nil => exact hm
  | cons op ops ih =>
    have hlt' : i < (r.step op).setups.length :=
      Nat.lt_of_lt_of_le hlt (r.length_setups_run [op])
    have hrest : ∀ loggerName, .attach i loggerName ∉ ops :=
      fun loggerName hmem => hops loggerName (List.mem_cons_of_mem _ hmem)
    refine ih (h.step op) hlt' ?_ hrest
    rw [mem_handlers_step h]
    rintro (ha | ⟨hm', -⟩)
    · cases op with
      | attach j loggerName =>
        obtain ⟨rfl, -⟩ := ha
        exact hops loggerName List.mem_cons_self
      | configure destination static extra level loggerName =>
        cases destination with
        | none => exact ha
        | some d =>
          obtain ⟨rfl, -⟩ := ha
          omega
      | get other | shutdown j | log c => exact ha
    · exact hm hm'

theorem run_append (u v : List Op) (r : Router) : r.run (u ++ v) = (r.run u).run v :=
  List.foldl_append

end Router

/-- After a setup is shut down, and as long as it is not attached again, its handler is off the
logger for which the setup was made. It is on just those other loggers to which the setup was
attached by itself before. -/
theorem handler_stays_where_attached {start : Router} (hstart : start.Fresh)
    (ops later : List Router.Op) {i : Nat} {s : Setup} (hs : (start.run ops).setups[i]? = some s)
    (hlater : ∀ loggerName, .attach i loggerName ∉ later) (name : String) :
    let r := start.run (ops ++ .shutdown i :: later)
    i ∈ (r.logger name).handlers ↔
      canonical name ≠ canonical s.loggerName ∧ start.attachedIn ops i name := by
  intro r
  let before := start.run ops
  have hsound : before.Sound := hstart.sound.run ops
  have hdown : (before.shutdown i).Sound := hsound.shutdown i
  have hrun : r = (before.shutdown i).run later := Router.run_append ops _ start
  have hdetached := Router.mem_handlers_shutdown hsound i i name
  rw [hrun]
  by_cases hn : canonical name = canonical s.loggerName
  · have hoff : i ∉ ((before.shutdown i).logger name).handlers := by
      rw [hdetached]
      rintro ⟨-, hno⟩
      exact hno ⟨rfl, s, hs, hn.symm⟩
    have hlt : i < (before.shutdown i).setups.length := by
      rw [Router.setups_shutdown hs, List.length_set]
      exact (List.getElem?_eq_some_iff.1 hs).1
    have hlast := Router.not_mem_handlers_run hdown hlt hoff hlater
    simp [hlast, hn]
  · have hno : ¬(i = i ∧ ∃ s', before.setups[i]? = some s' ∧
        canonical s'.loggerName = canonical name) := by
      rintro ⟨-, s', hs', he⟩
      cases hs.symm.trans hs'
      exact hn he.symm
    have hbefore := Router.mem_handlers_run hstart.sound hs hn
    rw [hstart.handlers_eq_nil, or_iff_right List.not_mem_nil] at hbefore
    let ended : Setup := ⟨s.level, s.resource, s.loggerName, s.processor, false⟩
    have hended : (before.shutdown i).setups[i]? = some ended := by
      rw [Router.setups_shutdown hs, List.getElem?_set_self (List.getElem?_eq_some_iff.1 hs).1]
    obtain ⟨last, hlast, hterms⟩ := Router.setup_run hended later
    have hname : last.loggerName = s.loggerName := congrArg (fun t => t.2.2.1) hterms
    have hne : canonical name ≠ canonical last.loggerName := hname ▸ hn
    have hafter := Router.mem_handlers_run hdown hlast hne
    have hunattached : ¬(before.shutdown i).attachedIn later i name := by
      rintro ⟨first, loggerName, rest, rfl, -⟩
      exact hlater loggerName (by simp)
    rw [hafter, or_iff_left hunattached, hdetached, and_iff_left hno, hbefore]
    exact (and_iff_right hn).symm

namespace Router

/-- A setup that is attached to a second logger before it is shut down. -/
def jobsAndMail : List Op :=
  [.configure (some (.exporter (.given 0))) plainInstallation [] 20 "jobs", .attach 0 "mail"]

end Router

theorem mail_keeps_handler :
    let r := Router.plain.run (Router.jobsAndMail ++
      [.shutdown 0, .log (plainCall "mail" 30 "sent")])
    (∃ s, (Router.plain.run Router.jobsAndMail).setups[0]? = some s) ∧
      0 ∉ (r.logger "jobs").handlers ∧ 0 ∈ (r.logger "mail").handlers := by
  intro r
  obtain ⟨s, hs, hname⟩ : ∃ s, (Router.plain.run Router.jobsAndMail).setups[0]? = some s ∧
      s.loggerName = "jobs" := ⟨_, rfl, rfl⟩
  have hstays := handler_stays_where_attached Router.fresh_plain Router.jobsAndMail
    [.log (plainCall "mail" 30 "sent")] hs (by simp)
  rw [hname] at hstays
  have hattached : Router.plain.attachedIn Router.jobsAndMail 0 "mail" :=
    ⟨[.configure (some (.exporter (.given 0))) plainInstallation [] 20 "jobs"], "mail", [], rfl,
      Nat.zero_lt_one, rfl⟩
  refine ⟨⟨s, hs⟩, ?_, ?_⟩
  · exact fun h => ((hstays "jobs").1 h).1 rfl
  · exact (hstays "mail").2 ⟨by decide, hattached⟩

end UsageMeter.Logging
