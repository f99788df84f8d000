import Mathlib.Data.List.Nodup
import Liveness.Proofs.Following
import Liveness.Proofs.Quiet
import Liveness.Proofs.Standing

/-!
# Validators that do not depend on each other

The votes of a block are counted, and the work that they put off is done, one task after another in
some order. Whatever the order is and whatever the others do, each validator ends up where its own
subscription and record, the slashing window and the chain's answer about it lead.
-/

namespace Liveness

open Work

/-! ## Orders -/

namespace Engine

variable {κ : Type} [Chain κ] (config : TrackerConfig) (b : Block)

/-- The updates of operators and the work put off, one task after another in some order, until there
is nothing left: from a world over effects to a world. Tasks are whole: what two of them read and
write is not mixed, and how many may overlap is not a part of it. -/
inductive Interleaving :
    List String → World κ Memory → List (Effect Memory) → World κ Memory → Prop where
  | done {w : World κ Memory} (hw : w.backlog = []) : Interleaving [] w [] w
  | update {pre post : List String} {operator : String} {w w' : World κ Memory}
      {es : List (Effect Memory)}
      (h : Interleaving (pre ++ post) ((update config b operator).runIn w).2 es w') :
      Interleaving (pre ++ operator :: post) w ((update config b operator).effects w ++ es) w'
  | perform {operators : List String} {pre post : List Job} {job : Job} {w w' : World κ Memory}
      {es : List (Effect Memory)} (hb : w.backlog = pre ++ job :: post)
      (h : Interleaving operators
        ((perform config job).runIn { w with backlog := pre ++ post }).2 es w') :
      Interleaving operators w
        ((perform config job).effects { w with backlog := pre ++ post } ++ es) w'

end Engine

/-! ## What becomes of one validator -/

/-- What is still to be done about a validator. -/
inductive Todo where
  /-- Its vote is to be counted. -/
  | vote
  /-- Nothing but this work, if there is any. -/
  | work (job? : Option Job)

/-- What is left of a block about a validator leads from its standing to another one, with these
warnings. -/
def Todo.fate (config : TrackerConfig) (answer : Except Failure Snapshot) (b : Block)
    (window : Float) (operator : String) :
    Todo → Standing → Standing × List (List String × Message)
  | vote, st => st.voted config answer b window operator
  | work job?, st => st.worked config answer job?

/-- This is what is still to be done about a validator. -/
inductive World.Awaits {κ : Type} (w : World κ Memory) (operators : List String)
    (operator : String) : Todo → Prop where
  | vote (hmem : operator ∈ operators) (hjobs : w.backlog.filter (Job.isAbout operator) = [])
      (hr : operator ∉ w.rechecking) : Awaits w operators operator .vote
  | work {job? : Option Job} (hmem : operator ∉ operators)
      (hjobs : w.backlog.filter (Job.isAbout operator) = job?.toList) :
      Awaits w operators operator (.work job?)

/-- A step that passes a validator by leaves to do about it what there was. -/
theorem Passes.awaits {κ : Type} [Chain κ] {w w' : World κ Memory} {operator : String}
    {operators operators' : List String} {es : List (Effect Memory)} {todo : Todo}
    (h : Passes operator w es w') (ht : w.Awaits operators operator todo)
    (hmem : operator ∈ operators' ↔ operator ∈ operators) : w'.Awaits operators' operator todo := by
  cases ht with
  | vote hin hjobs hr => exact .vote (hmem.mpr hin) (h.backlog.trans hjobs) (h.rechecking hr)
  | work hout hjobs => exact .work (fun hin => hout (hmem.mp hin)) (h.backlog.trans hjobs)

/-- Such a step does not change its fate. -/
theorem Passes.fate {κ : Type} [Chain κ] {config : TrackerConfig}
    {answer : Except Failure Snapshot} {b : Block} {w w₁ w' : World κ Memory} {operator : String}
    {es es₁ : List (Effect Memory)} {todo : Todo} (h : Passes operator w es w₁)
    (hfate : todo.fate config answer b w₁.window operator (w₁.store.standing operator) =
      (w'.store.standing operator, es₁.filterMap (Effect.warning? operator))) :
    todo.fate config answer b w.window operator (w.store.standing operator) =
      (w'.store.standing operator, (es ++ es₁).filterMap (Effect.warning? operator)) := by
  rw [List.filterMap_append, h.silent, List.nil_append, ← hfate, h.window, h.standing]

namespace World.Awaits

variable {κ : Type} {w : World κ Memory} {operators : List String} {operator : String} {todo : Todo}
  {pre post : List Job} {job : Job}

/-- Work about a validator that there is to do is all that is left about it. -/
theorem take_self (ht : w.Awaits operators operator todo) (hb : w.backlog = pre ++ job :: post)
    (hjob : job.isAbout operator = true) :
    todo = .work (some job) ∧
      World.Awaits { w with backlog := pre ++ post } operators operator (.work none) := by
  have hfilter : w.backlog.filter (Job.isAbout operator) =
      pre.filter (Job.isAbout operator) ++ job :: post.filter (Job.isAbout operator) := by
    rw [hb, List.filter_append, List.filter_cons_of_pos hjob]
  cases ht with
  | vote _ hjobs => simp [hfilter] at hjobs
  | @work job? hout hjobs =>
    cases job? with
    | none => simp [hfilter] at hjobs
    | some job' =>
      rw [hfilter, Option.toList_some] at hjobs
      rcases List.append_eq_singleton_iff.mp hjobs with ⟨hpre, hrest⟩ | ⟨-, hrest⟩
      · obtain ⟨rfl, hpost⟩ := List.cons.inj hrest
        refine ⟨rfl, .work hout ?_⟩
        rw [List.filter_append, hpre, hpost]
        rfl
      · cases hrest

/-- Without a piece of work about others there is as much to do about a validator. -/
theorem take_other (ht : w.Awaits operators operator todo) (hb : w.backlog = pre ++ job :: post)
    (hjob : ¬ job.isAbout operator = true) :
    World.Awaits { w with backlog := pre ++ post } operators operator todo := by
  have hfilter : (pre ++ post).filter (Job.isAbout operator) =
      w.backlog.filter (Job.isAbout operator) := by
    rw [hb, List.filter_append, List.filter_append, List.filter_cons_of_neg hjob]
  cases ht with
  | vote hin hjobs hr => exact .vote hin (hfilter.trans hjobs) hr
  | work hout hjobs => exact .work hout (hfilter.trans hjobs)

end World.Awaits

/-- The work that a vote puts off is about its validator. -/
theorem Standing.filter_late? (st : Standing) (config : TrackerConfig) (b : Block) (window : Float)
    (operator : String) :
    (st.late? config b window operator).toList.filter (Job.isAbout operator) =
      (st.late? config b window operator).toList := by
  refine List.filter_eq_self.mpr fun job hjob => ?_
  have hlate : st.late? config b window operator = some job := by simpa using hjob
  unfold late? at hlate
  split at hlate
  · cases hlate
  · obtain rfl := Option.some.inj hlate
    simp [Job.isAbout]
  · obtain ⟨p, -, rfl⟩ := Option.map_eq_some_iff.mp hlate
    simp [Job.isAbout]

namespace Engine

variable {κ : Type} [Chain κ] {config : TrackerConfig} {b : Block} {w w' : World κ Memory}
  {operator : String} {operators : List String} {es : List (Effect Memory)} {todo : Todo}
  {answer : Except Failure Snapshot}

omit [Chain κ] in
/-- The update of a validator counts its vote and puts off the work that is left. -/
theorem fate_update :
    let w' := ((update config b operator).runIn w).2
    let late := (Todo.work ((w.store.standing operator).late? config b w.window operator)).fate
      config answer b w'.window operator (w'.store.standing operator)
    Todo.vote.fate config answer b w.window operator (w.store.standing operator) =
      (late.1, ((update config b operator).effects w).filterMap (Effect.warning? operator) ++
        late.2) := by
  intro w' late
  have hstanding : w'.store.standing operator =
      (w.store.standing operator).seen config b w.window := by
    show ((update config b operator).runIn w).2.store.standing operator = _
    rw [standing_update, if_pos rfl]
  rw [warnings_update, if_pos rfl]
  simp only [late, hstanding]
  rfl

variable (config b) in
omit [Chain κ] in
theorem plain_update (other : String) (hplain : ∀ job ∈ w.backlog, job.Plain) :
    ∀ job ∈ ((update config b other).runIn w).2.backlog, job.Plain := by
  obtain ⟨_, _, _, jobs, hrun, -, hjobs⟩ := update_frame config b other w
  rw [hrun]
  intro job hjob
  rcases List.mem_append.mp hjob with hjob | hjob
  · exact hplain job hjob
  · rcases hjobs job hjob with rfl | rfl
    · exact .refetch other
    · exact .recheck other b.height

variable (config) in
theorem plain_perform {pre post : List Job} {job : Job} (hb : w.backlog = pre ++ job :: post)
    (hplain : ∀ job ∈ w.backlog, job.Plain) :
    ∀ job' ∈ ((perform config job).runIn { w with backlog := pre ++ post }).2.backlog,
      job'.Plain := by
  rw [backlog_perform config job]
  intro job' hjob'
  refine hplain job' ?_
  rw [hb]
  rcases List.mem_append.mp hjob' with hin | hin
  · exact List.mem_append_left _ hin
  · exact List.mem_append_right _ (List.mem_cons_of_mem _ hin)

/-- In whatever order the tasks are done, what is left of a block about a validator leads to its
fate. -/
theorem fate_of_interleaving (hκ : Chain.Faithful κ) (h : Interleaving config b operators w es w')
    (hn : operators.Nodup) (hplain : ∀ job ∈ w.backlog, job.Plain)
    (ht : w.Awaits operators operator todo)
    (ha : todo = .work none ∨ Chain.Tells w.chain operator answer) :
    todo.fate config answer b w.window operator (w.store.standing operator) =
      (w'.store.standing operator, es.filterMap (Effect.warning? operator)) := by
  induction h generalizing todo with
  | done hw =>
    cases ht with
    | vote hin => cases hin
    | @work job? _ hjobs =>
      rw [hw] at hjobs
      cases job? with
      | none => rfl
      | some job => cases hjobs
  | @update pre post other w w' es h ih =>
    obtain ⟨hout, hn'⟩ := List.nodup_cons.mp (List.nodup_middle.mp hn)
    have hplain' := plain_update config b other hplain
    by_cases hop : other = operator
    · subst hop
      -- an operator whose update is to come still has its vote
      cases ht with
      | work hnot => exact absurd (by simp) hnot
      | vote _ hjobs hr =>
        have hlate : (((update config b other).runIn w).2).Awaits (pre ++ post) other
            (.work ((w.store.standing other).late? config b w.window other)) := by
          refine .work hout ?_
          rw [backlog_update config b hr, List.filter_append, hjobs, List.nil_append]
          exact (w.store.standing other).filter_late? config b w.window other
        have hchain : ((update config b other).runIn w).2.chain = w.chain := by
          obtain ⟨_, _, _, _, hrun, -⟩ := update_frame config b other w
          rw [hrun]
        have htells : Chain.Tells ((update config b other).runIn w).2.chain other answer := by
          rw [hchain]
          exact ha.resolve_left (by simp)
        have hfate := ih hn' hplain' hlate (Or.inr htells)
        rw [fate_update, hfate, List.filterMap_append]
    · have hpass : Passes operator w ((update config b other).effects w)
          ((update config b other).runIn w).2 := passes_update config b hop
      have hmem : operator ∈ pre ++ post ↔ operator ∈ pre ++ other :: post := by
        simp [Ne.symm hop]
      exact hpass.fate (ih hn' hplain' (hpass.awaits ht hmem) (ha.imp_right (hpass.tells answer)))
  | @perform operators pre post job w w' es hb h ih =>
    have hjob : job.Plain := hplain job (by simp [hb])
    have hplain' := plain_perform config hb hplain
    by_cases hop : job.isAbout operator = true
    · obtain ⟨rfl, hover⟩ := ht.take_self hb hop
      have htells : Chain.Tells w.chain operator answer := ha.resolve_left (by simp)
      have hself := perform_self config hκ hjob hop
        (w := { w with backlog := pre ++ post }) htells.answer_eq
      have hafter : World.Awaits ((perform config job).runIn { w with backlog := pre ++ post }).2
          operators operator (.work none) := by
        cases hover with
        | work hout hjobs => exact .work hout (by rw [backlog_perform config job]; exact hjobs)
      have hfate := ih hn hplain' hafter (Or.inl rfl)
      obtain ⟨hstanding, hsilent⟩ := Prod.mk.inj hfate
      rw [List.filterMap_append, ← hsilent, ← hstanding, List.append_nil]
      exact hself
    · have hpass : Passes operator { w with backlog := pre ++ post }
          ((perform config job).effects { w with backlog := pre ++ post })
          ((perform config job).runIn { w with backlog := pre ++ post }).2 :=
        passes_perform config hκ hjob (by simpa using hop)
      exact hpass.fate (ih hn hplain' (hpass.awaits (ht.take_other hb hop) Iff.rfl)
        (ha.imp_right (hpass.tells answer)))

/-! ## The order of the program -/

omit [Chain κ] in
theorem blind_followers (operator : String) :
    Blind (followers operator : Work κ Memory (List String)) :=
  (blind_fetch _).bind fun _ => blind_pure _

theorem blind_checkJailed (operator : String) (height : Nat) :
    Blind (checkJailed operator height : Work κ Memory Bool) := by
  refine (blind_ask _).bind fun s => ?_
  cases hs : s.jailed with
  | false => exact blind_pure _
  | true =>
    refine (blind_commit _).bind fun marked => ?_
    cases marked with
    | false => exact blind_pure _
    | true =>
      refine (blind_fetch _).bind fun record? => ?_
      cases record? with
      | none => exact blind_fail _
      | some record =>
        refine (blind_followers operator).bind fun targets => ?_
        exact (blind_broadcast _ _).bind fun _ => blind_pure _

variable (config) in
theorem blind_perform {job : Job} (hjob : job.Plain) :
    Blind (perform config job : Work κ Memory Unit) := by
  cases hjob with
  | keep block => exact blind_commit _
  | recheck operator height =>
    exact (blind_checkJailed operator height).isolate.discard.bind fun _ _ _ => ⟨rfl, rfl⟩
  | refetch operator =>
    refine Blind.discard ((blind_ask _).bind fun s => ?_)
    refine (blind_ofExcept _).bind fun r => ?_
    exact (blind_commit _).bind fun _ => blind_pure r

/-- Plain jobs one after another, none of which looks at what is put off, are done in one of the
orders. -/
theorem interleaving_performAll {jobs : List Job} (hplain : ∀ job ∈ jobs, job.Plain)
    (hb : w.backlog = [])
    (h : Interleaving config b operators ((performAll config jobs).runIn w).2 es w') :
    Interleaving config b operators { w with backlog := jobs }
      ((performAll config jobs).effects w ++ es) w' := by
  induction jobs generalizing w with
  | nil =>
    have hsame : { w with backlog := [] } = w := by rw [← hb]
    rw [hsame]
    exact h
  | cons job jobs ih =>
    obtain ⟨hjob, hrest⟩ := List.forall_mem_cons.mp hplain
    obtain ⟨hall, hsent⟩ := performAll_cons config job jobs w
    -- the program does the job while nothing else is put off
    obtain ⟨hrun, heff⟩ := blind_perform config hjob w jobs
    have hnext := ih hrest ((backlog_perform config job).trans hb) (hall ▸ h)
    have hlater : ((perform config job).runIn { w with backlog := jobs }).2 =
        { ((perform config job).runIn w).2 with backlog := jobs } := by rw [hrun]
    rw [hsent, List.append_assoc, ← heff]
    have hfirst : ({ w with backlog := job :: jobs } : World κ Memory).backlog =
        [] ++ job :: jobs := rfl
    refine .perform hfirst ?_
    rw [List.nil_append, hlater]
    exact hnext

/-- Plain work that is drained is done in one of the orders. -/
theorem interleaving_drain (hplain : ∀ job ∈ w.backlog, job.Plain)
    (h : Interleaving config b operators ((drain config).runIn w).2 es w') :
    Interleaving config b operators w ((drain config).effects w ++ es) w' := by
  obtain ⟨hrun, heff⟩ := drain_eq_performAll config w
  rw [hrun] at h
  rw [heff]
  exact interleaving_performAll (w := { w with backlog := [] }) hplain rfl h

omit [Chain κ] in
theorem plain_updateAll (hplain : ∀ job ∈ w.backlog, job.Plain) :
    ∀ job ∈ ((updateAll config b operators).runIn w).2.backlog, job.Plain := by
  intro job hjob
  rcases mem_backlog_updateAll hjob with h | ⟨operator, rfl | rfl⟩
  · exact hplain job h
  · exact .refetch operator
  · exact .recheck operator b.height

/-- Updates one after another are in one of the orders. -/
theorem interleaving_updateAll
    (h : Interleaving config b [] ((updateAll config b operators).runIn w).2 es w') :
    Interleaving config b operators w ((updateAll config b operators).effects w ++ es) w' := by
  rw [world_updateAll] at h
  induction operators generalizing w with
  | nil => exact h
  | cons operator rest ih =>
    rw [effects_updateAll_cons, List.append_assoc]
    show Interleaving config b ([] ++ operator :: rest) w _ w'
    exact .update (ih h)

/-- The program counts the votes of a calm block and does what they put off in one of the orders. -/
theorem interleaving_block (h : Calm config b w) (hb : w.backlog = []) :
    Interleaving config b (tracked config w.store) (w.accept config b)
      (((Action.block b).step config).effects w) (((Action.block b).step config).runIn w).2 := by
  have hdue : ∀ job ∈ (w.accept config b).backlog, job.Plain := by
    intro job hjob
    rw [World.accept, hb, h.dueJobs] at hjob
    obtain rfl := List.mem_singleton.mp hjob
    exact .keep b.record
  have hcounting : ∀ job ∈ (counting config b w).backlog, job.Plain := by
    rw [counting, backlog_drain]
    simp
  rcases Action.block_cases config b hb with ⟨hle, -⟩ | ⟨-, ⟨hnone, hrun, heff⟩ | ⟨-, hrun, heff⟩⟩
  · exact absurd h.newer (Nat.not_lt.mpr hle)
  · rw [hrun, heff, hnone, ← List.append_nil ((drain config).effects _)]
    exact interleaving_drain hdue (.done (backlog_drain config _))
  · rw [hrun, heff, ← List.append_nil ((drain config).effects (counted config b w))]
    exact interleaving_drain hdue (interleaving_updateAll
      (interleaving_drain (plain_updateAll hcounting) (.done (backlog_drain config _))))

/-! ## Blocks -/

omit [Chain κ] in
theorem mem_tracked_iff_standing {s : Memory}
    (hs : Rows.Sorted Subscription.operator s.subscriptions) :
    operator ∈ tracked config s ↔
      (s.standing operator).subscription?.any (isTracked config) = true := by
  show _ ↔ (s.subscription? operator).any _ = true
  cases hsub : s.subscription? operator with
  | none =>
    refine ⟨fun hmem => ?_, fun h => by simp at h⟩
    obtain ⟨sub, hin, hop⟩ := List.mem_map.mp hmem
    exact absurd hop (Rows.find?_eq_none_iff.mp hsub sub (List.mem_filter.mp hin).1)
  | some sub => exact mem_tracked_iff hs hsub

/-- In whatever order the tasks of a calm block are done, they lead a validator from its standing to
the one that it has after the block. -/
theorem standing_of_interleaving (hκ : Chain.Faithful κ) (hcalm : Calm config b w) (hw : w.Idle)
    (hs : Rows.Sorted Subscription.operator w.store.subscriptions)
    (ha : Chain.Tells w.chain operator answer)
    (h : Interleaving config b (tracked config w.store) (w.accept config b) es w') :
    (w.store.standing operator).afterBlock config answer b w.window operator =
      (w'.store.standing operator, es.filterMap (Effect.warning? operator)) := by
  have hbacklog : (w.accept config b).backlog = [.keep b.record] := by
    rw [World.accept, hw.backlog, hcalm.dueJobs]
    rfl
  have hplain : ∀ job ∈ (w.accept config b).backlog, job.Plain := by
    rw [hbacklog]
    intro job hjob
    obtain rfl := List.mem_singleton.mp hjob
    exact .keep b.record
  have hjobs : (w.accept config b).backlog.filter (Job.isAbout operator) = [] := by
    rw [hbacklog]
    rfl
  have hr : operator ∉ (w.accept config b).rechecking := by
    show operator ∉ w.rechecking
    rw [hw.rechecking]
    exact List.not_mem_nil
  rw [Standing.afterBlock]
  by_cases hmem : operator ∈ tracked config w.store
  · rw [if_pos ((mem_tracked_iff_standing hs).mp hmem)]
    exact fate_of_interleaving hκ h (nodup_tracked hs) hplain (.vote hmem hjobs hr) (Or.inr ha)
  · rw [if_neg fun htracked => hmem ((mem_tracked_iff_standing hs).mpr htracked)]
    have hnothing : (w.accept config b).Awaits (tracked config w.store) operator (.work none) :=
      .work hmem hjobs
    exact fate_of_interleaving hκ h (nodup_tracked hs) hplain hnothing (Or.inr ha)

end Engine

/-- The warnings about an operator that arrive, target by target, if deliveries to some targets
fail. -/
def Effect.arrivals (works : String → Bool) (operator : String) (es : List (Effect Memory)) :
    List (String × Message) :=
  (es.filterMap (warning? operator)).flatMap fun p => (p.1.filter works).map (·, p.2)

namespace Engine

/-- A block acts on each validator independently. In two runs whose settings may differ in how many
updates go on at once, take a block at which nothing but the votes is due, and an operator about
which the two agree: its subscription, its record, the slashing window and what the chain answers
about it. In whatever orders the tasks of the block are done, among them those of the program, they
lead to the same subscription and record of the operator and to the same warnings about it, of which
the same arrive. Nothing becomes of a validator that is not tracked or has no record; for any other
the tracking is that of the observation. -/
theorem block_independent {κ κ' : Type} [Chain κ] [Chain κ'] (hκ : Chain.Faithful κ)
    (hκ' : Chain.Faithful κ') (config : TrackerConfig) (maxUpdates : Nat) (chain : κ) (chain' : κ')
    (os : List (Operation κ)) (os' : List (Operation κ')) (b : Block) (operator : String)
    (answer : Except Failure Snapshot) :
    let config' := { config with maxUpdates := maxUpdates }
    let w := reachedBy config chain os
    let v := reachedBy config' chain' os'
    Calm config b w → Calm config' b v →
    Chain.Tells w.chain operator answer → Chain.Tells v.chain operator answer →
    v.store.subscription? operator = w.store.subscription? operator →
    v.store.validator? operator = w.store.validator? operator → v.window = w.window →
    (Interleaving config b (tracked config w.store) (w.accept config b)
        (((Action.block b).step config).effects w) (((Action.block b).step config).runIn w).2 ∧
      Interleaving config' b (tracked config' v.store) (v.accept config' b)
        (((Action.block b).step config').effects v) (((Action.block b).step config').runIn v).2) ∧
    ∀ (es : List (Effect Memory)) (w' : World κ Memory) (es' : List (Effect Memory))
      (v' : World κ' Memory),
      Interleaving config b (tracked config w.store) (w.accept config b) es w' →
      Interleaving config' b (tracked config' v.store) (v.accept config' b) es' v' →
      v'.store.subscription? operator = w'.store.subscription? operator ∧
      v'.store.validator? operator = w'.store.validator? operator ∧
      es'.filterMap (Effect.warning? operator) = es.filterMap (Effect.warning? operator) ∧
      (∀ works works' : String → Bool,
        (∀ target ∈ w.store.followers operator, works' target = works target) →
        Effect.arrivals works' operator es' = Effect.arrivals works operator es) ∧
      ((∀ sub ∈ w.store.subscription? operator, isTracked config sub = false) →
        w'.store.subscription? operator = w.store.subscription? operator ∧
          w'.store.validator? operator = w.store.validator? operator) ∧
      (w.store.validator? operator = none →
        w'.store.subscription? operator = w.store.subscription? operator) ∧
      ∀ sub ∈ w.store.subscription? operator, ∀ r ∈ w.store.validator? operator,
        isTracked config sub = true →
        w'.store.subscription? operator = some { sub with
          tracking := (sub.tracking.observe b.height (b.signedBy r.consensus) r.jailed w.window
            config.historyWindow).1 } := by
  intro config' w v hcalm hcalm' ha ha' hsub hval hwindow
  obtain ⟨hidle, htidy⟩ := tidy_reachedBy config chain os
  obtain ⟨hidle', htidy'⟩ := tidy_reachedBy config' chain' os'
  refine ⟨⟨interleaving_block hcalm hidle.backlog, interleaving_block hcalm' hidle'.backlog⟩, ?_⟩
  intro es w' es' v' h h'
  have hout := standing_of_interleaving hκ hcalm hidle htidy.sorted.subscriptions ha h
  have hout' := standing_of_interleaving hκ' hcalm' hidle' htidy'.sorted.subscriptions ha' h'
  have hstart : v.store.standing operator = w.store.standing operator := by
    rw [Memory.standing, hsub, hval]
    rfl
  have hsame : (v.store.standing operator).afterBlock config' answer b v.window operator =
      (w.store.standing operator).afterBlock config answer b w.window operator := by
    rw [hstart, hwindow]
    rfl
  obtain ⟨hstanding, hwarnings⟩ := Prod.mk.inj (hout'.symm.trans (hsame.trans hout))
  have hend := congrArg Prod.fst hout
  have hsent : ((w.store.standing operator).afterBlock config answer b w.window operator).2 =
      es.filterMap (Effect.warning? operator) := congrArg Prod.snd hout
  have hsub' : ((w.store.standing operator).afterBlock config answer b w.window
      operator).1.subscription? = w'.store.subscription? operator :=
    congrArg Standing.subscription? hend
  refine ⟨congrArg Standing.subscription? hstanding, congrArg Standing.record? hstanding, hwarnings,
    fun works works' hworks => ?_, fun hnot => ?_, fun hnone => ?_, fun sub hs r hr ht => ?_⟩
  · rw [Effect.arrivals, Effect.arrivals, hwarnings]
    refine List.flatMap_congr fun p hp => ?_
    have htargets : p.1 = w.store.followers operator :=
      Standing.targets_of_mem_afterBlock (by rw [hsent]; exact hp)
    rw [htargets, List.filter_congr hworks]
  · rw [Standing.afterBlock_of_untracked hnot] at hend
    exact ⟨(congrArg Standing.subscription? hend).symm, (congrArg Standing.record? hend).symm⟩
  · exact hsub'.symm.trans (Standing.subscription?_afterBlock_of_no_record hnone)
  · exact hsub'.symm.trans (Standing.subscription?_afterBlock_of_tracked hs hr ht)

end Engine

/-! ## Two validators -/

/-- Asking a scripted chain does not change it. -/
theorem Scripted.tells (c : Scripted) (operator : String) :
    Chain.Tells c operator (Chain.validator c operator none).1 := by
  have hsame : ∀ others : List String,
      others.foldl (fun c other => (Chain.validator c other none).2) c = c := by
    intro others
    induction others with
    | nil => rfl
    | cons other others ih => exact ih
  intro others _
  rw [hsame]

namespace Beta

/-- The operator of a second validator. -/
def operator : String := "cosmosvaloper1qgpqyqszqgpqyqszqgpqyqszqgpqyqszxrnw2e"

/-- A chain with two validators, of which the second one cannot be asked for if `fails`. -/
def chain (fails : Bool) : Scripted :=
  ((Alpha.chain false).putSnapshot {
    operator := operator
    key := .base64 "AgICAgICAgICAgICAgICAgICAgICAgICAgICAgICAgI="
    jailed := false
    status := 3
    tokens := 1000
    description := { Description.blank with moniker := "Beta" }
    commission := ⟨0.0, 0.0, 0.0⟩ }).setOutage (.validator operator) fails

theorem answer_eq : (Chain.validator (chain true) Alpha.operator none).1 =
    (Chain.validator (chain false) Alpha.operator none).1 := by
  rfl

end Beta

namespace Engine

section Reached

variable {κ : Type} [Chain κ] (config : TrackerConfig) (chain : κ) (os : List (Operation κ))

/-- How many updates may go on at once does not matter for a run: no step reads it, since updates are
whole. -/
theorem reachedBy_maxUpdates (maxUpdates : Nat) :
    reachedBy { config with maxUpdates := maxUpdates } chain os = reachedBy config chain os :=
  rfl

theorem reachedBy_concat (o : Operation κ) :
    reachedBy config chain (os ++ [o]) = ((o.step config).runIn (reachedBy config chain os)).2 := by
  rw [reachedBy, after, List.foldl_append]
  rfl

theorem reachedBy_turn (next : κ) :
    reachedBy config chain (os ++ [.act (.turn next)]) =
      { reachedBy config chain os with chain := next } := by
  have hidle := (tidy_reachedBy config chain os).1
  rw [reachedBy_concat, (Operation.runIn_step_of_ne config (fun b h => by cases h) hidle.backlog).1]
  rfl

theorem window_reachedBy_subscribe (operator target : String) :
    (reachedBy config chain (os ++ [.act (.subscribe operator target)])).window =
      (reachedBy config chain os).window := by
  have hidle := (tidy_reachedBy config chain os).1
  obtain ⟨_, _, _, hrun, -⟩ := Following.subscribe_cases config.accountPrefix operator target
    (reachedBy config chain os)
  rw [reachedBy_concat, (Operation.runIn_step_of_ne config (fun b h => by cases h) hidle.backlog).1,
    Operation.work, Action.work, runIn_discard, hrun]

end Reached

/-- A validator votes for a block, while a second one, which others follow, misses it and cannot be
asked for. -/
theorem block_independent_of_second :
    let b : Block := ⟨8, "", 0, [⟨"72CD6E8422C407FB6D098690F1130B7DED7EC2F7", true⟩]⟩
    let config := { TrackerConfig.standard with maxUpdates := 1 }
    let before : List (Operation Scripted) :=
      [.act (.turn (Beta.chain false)), .act (.subscribe Alpha.operator "chat-1")]
    let joined := before ++ [.act (.subscribe Beta.operator "chat-2")]
    let v := reachedBy config Scripted.empty (joined ++ [.act (.turn (Beta.chain true))])
    tracked config v.store = [Beta.operator, Alpha.operator] ∧
      (((Action.block b).step config).runIn v).2.store.subscription? Alpha.operator =
        some ⟨Alpha.operator, ⟨0, 1, 0, ⟨[⟨8, true⟩]⟩⟩, ["chat-1"]⟩ := by
  intro b config before joined v
  let w := reachedBy .standard Scripted.empty (before ++ [.act (.turn (Beta.chain false))])
  obtain ⟨hcalm, hcalm', hsub, hval, htracked, hlast⟩ :
      Calm .standard b w ∧ Calm config b v ∧
      v.store.subscription? Alpha.operator = w.store.subscription? Alpha.operator ∧
      v.store.validator? Alpha.operator = w.store.validator? Alpha.operator ∧
      tracked config v.store = [Beta.operator, Alpha.operator] ∧
      (((Action.block b).step .standard).runIn w).2.store.subscription? Alpha.operator =
        some ⟨Alpha.operator, ⟨0, 1, 0, ⟨[⟨8, true⟩]⟩⟩, ["chat-1"]⟩ := by
    decide +kernel
  have hw : w = { reachedBy .standard Scripted.empty before with chain := Beta.chain false } :=
    reachedBy_turn .standard Scripted.empty before (Beta.chain false)
  have hv : v = { reachedBy config Scripted.empty joined with chain := Beta.chain true } :=
    reachedBy_turn config Scripted.empty joined (Beta.chain true)
  have hwindow : v.window = w.window := by
    have hjoined : (reachedBy config Scripted.empty joined).window =
        (reachedBy config Scripted.empty before).window :=
      window_reachedBy_subscribe config Scripted.empty before _ _
    have hsame : reachedBy config Scripted.empty before =
        reachedBy .standard Scripted.empty before :=
      reachedBy_maxUpdates .standard Scripted.empty before 1
    rw [hsame] at hjoined
    rw [hv, hw]
    dsimp only
    exact hjoined
  have ha : Chain.Tells w.chain Alpha.operator
      (Chain.validator (Beta.chain false) Alpha.operator none).1 := by
    rw [hw]
    exact Scripted.tells _ _
  have ha' : Chain.Tells v.chain Alpha.operator
      (Chain.validator (Beta.chain false) Alpha.operator none).1 := by
    rw [hv, ← Beta.answer_eq]
    exact Scripted.tells _ _
  have h := block_independent Scripted.faithful Scripted.faithful .standard 1 Scripted.empty
    Scripted.empty (before ++ [.act (.turn (Beta.chain false))])
    (joined ++ [.act (.turn (Beta.chain true))]) b Alpha.operator
    (Chain.validator (Beta.chain false) Alpha.operator none).1
  dsimp only at h
  rw [show reachedBy .standard Scripted.empty (before ++ [.act (.turn (Beta.chain false))]) = w
    from rfl] at h
  rw [show reachedBy { TrackerConfig.standard with maxUpdates := 1 } Scripted.empty
    (joined ++ [.act (.turn (Beta.chain true))]) = v from rfl] at h
  clear_value w v
  obtain ⟨⟨horder, horder'⟩, hall⟩ := h hcalm hcalm' ha ha' hsub hval hwindow
  exact ⟨htracked, (hall _ _ _ _ horder horder').1.trans hlast⟩

end Engine

end Liveness
