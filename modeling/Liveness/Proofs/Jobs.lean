import Liveness.Proofs.Acts
import Liveness.Proofs.Answers

/-!
# Which deeds the work put off does

The jailed flag of a record is set, and its followers told, by one kind of job alone, the recheck.
No job puts off more work.
-/

namespace Liveness

open Work

variable {κ : Type} {D : Deed → Prop} {J : Job → Prop} {w : World κ Memory} {operator : String}

/-! ## Reports -/

namespace Report

variable [Chain κ]

theorem acts_ofSubscription (sub : Subscription) (blocks : List BlockRecord)
    (height interval : Nat) :
    Keeps (Acts (κ := κ) D J) (ofSubscription sub blocks height interval) w := by
  refine Keeps.fetch_bind Acts.composable fun o _ => ?_
  cases o with
  | none => exact keeps_fail Acts.composable _
  | some record =>
    refine Keeps.bind Acts.composable (acts_ask _) fun before _ => ?_
    refine Keeps.bind Acts.composable (acts_ask _) fun after _ => ?_
    refine Keeps.bind Acts.composable (acts_ask _) fun poolBefore _ => ?_
    refine Keeps.bind Acts.composable (acts_ask _) fun poolAfter _ => ?_
    exact keeps_pure Acts.composable _

theorem acts_pass (hD : ∀ operator, D (.report operator)) (interval height : Nat) :
    Keeps (Acts (κ := κ) D J) (pass interval height) w := by
  refine Keeps.fetch_bind Acts.composable fun subs _ => ?_
  refine Keeps.fetch_bind Acts.composable fun blocks _ => ?_
  refine Keeps.bind Acts.composable ?_ fun sent _ => ?_
  · refine keeps_mapM Acts.composable fun sub _ w => Keeps.attempt ?_
    refine Keeps.bind Acts.composable (acts_ofSubscription sub blocks height interval) fun r _ => ?_
    exact acts_broadcast (hD r.operator) (.report _ r _)
  · dsimp only
    split
    · exact Keeps.bind Acts.composable (keeps_throw Acts.composable _) fun _ _ =>
        keeps_pure Acts.composable _
    · exact keeps_pure Acts.composable _

end Report

namespace Engine

theorem acts_announceUnjail {record : ValidatorRecord} (hD : D (.welcome record.operator))
    (height : Nat) : Keeps (Acts (κ := κ) D J) (announceUnjail record height) w := by
  refine Keeps.bind Acts.composable ?_ fun targets _ => ?_
  · exact Keeps.map (keeps_fetch Acts.composable _) _
  · refine Keeps.bind Acts.composable ?_ fun _ _ => keeps_pure Acts.composable _
    exact acts_broadcast hD (.welcome _ record _ _)

variable [Chain κ]

theorem acts_refreshWindow : Keeps (Acts (κ := κ) D J) refreshWindow w := by
  refine Keeps.bind Acts.composable (acts_ask _) fun params _ => ?_
  refine Keeps.bind Acts.composable ?_ fun _ _ => keeps_pure Acts.composable _
  exact Acts.still rfl rfl rfl rfl

/-- A check marks a record as jailed and tells those who follow, or it leaves the store and the
outbox as they are. -/
theorem checkJailed_cases (operator : String) (height : Nat) (w : World κ Memory) :
    ∃ chain,
      (∃ o, o ≠ .ok true ∧
        (checkJailed operator height).runIn w = (o, { w with chain := chain }) ∧
        ((checkJailed operator height).effects w = [] ∨
          (checkJailed operator height).effects w = [.stored w.store])) ∨
      ∃ r, w.store.validator? operator = some r ∧ r.jailed = false ∧
        (checkJailed operator height).runIn w =
          (.ok true, { w with
            chain := chain
            store := w.store.putValidator { r with jailed := true }
            outbox := w.outbox ++ (w.store.followers operator).map
              (⟨·, (Message.jailed { r with jailed := true } height).text⟩) }) ∧
        (checkJailed operator height).effects w =
          [.stored (w.store.putValidator { r with jailed := true }),
            .sent (w.store.followers operator) (.jailed { r with jailed := true } height)] := by
  refine ⟨(w.asked operator).chain, ?_⟩
  cases hm : Registry.marked? (w.answer operator) (w.store.validator? operator) with
  | none =>
    obtain ⟨o, ho, -, hw, he⟩ := checkJailed_of_none height hm
    exact Or.inl ⟨o, ho, hw, he⟩
  | some r =>
    obtain ⟨hw, he⟩ := checkJailed_of_some height hm
    obtain ⟨old, hold, hj, rfl⟩ := Registry.exists_of_marked? hm
    exact Or.inr ⟨old, hold, hj, hw, he⟩

theorem acts_checkJailed (hi : D .idle) (hD : D (.jail operator)) (height : Nat) :
    Keeps (Acts (κ := κ) D J) (checkJailed operator height) w := by
  obtain ⟨chain, ⟨o, -, hw, he | he⟩ | ⟨r, hr, hj, hw, he⟩⟩ := checkJailed_cases operator height w
  · rw [Keeps, hw, he]
    exact Acts.still rfl rfl rfl rfl
  · rw [Keeps, hw, he]
    exact Acts.single hi (.idle _) rfl rfl rfl (by simp [Effect.deliveries])
  · rw [Keeps, hw, he]
    exact Acts.single hD (.jail height hr hj) rfl rfl rfl (by simp [Effect.deliveries])

/-! ## Jobs -/

variable (hκ : Chain.Faithful κ) (config : TrackerConfig)
include hκ

theorem acts_scanAndAnnounce (hr : ∀ operator, D (.refresh config.accountPrefix operator))
    (he : ∀ operator, D (.enrol operator)) (hs : ∀ operator, D (.restart operator))
    (hw : ∀ operator, D (.welcome operator)) (height : Nat) :
    Keeps (Acts (κ := κ) D J) (scanAndAnnounce config height) w := by
  refine Keeps.bind Acts.composable (Registry.acts_scan hκ hr he hs height) fun applied _ => ?_
  refine keeps_forM Acts.composable (fun _ => True) (fun p _ w _ => ⟨?_, trivial⟩) trivial
  rcases p with ⟨op | op | op, record⟩
  · exact keeps_pure Acts.composable ()
  · exact keeps_pure Acts.composable ()
  · dsimp only
    split
    · exact keeps_pure Acts.composable ()
    · exact ((acts_announceUnjail (hw _) height).isolate).discard

end Engine

/-- The deeds of a scan. -/
inductive Deed.OfScan (accountPrefix : String) : Deed → Prop where
  | refresh (operator : String) : OfScan accountPrefix (.refresh accountPrefix operator)
  | enrol (operator : String) : OfScan accountPrefix (.enrol operator)
  | restart (operator : String) : OfScan accountPrefix (.restart operator)
  | welcome (operator : String) : OfScan accountPrefix (.welcome operator)

/-- The deeds of a piece of work that was put off. -/
inductive Job.Does (config : TrackerConfig) : Job → Deed → Prop where
  | keep (block : BlockRecord) : Does config (.keep block) (.keep block config.blockLimit)
  | scan (height : Nat) {d : Deed} (hd : d.OfScan config.accountPrefix) :
      Does config (.scan height) d
  | report (interval height : Nat) (operator : String) :
      Does config (.report interval height) (.report operator)
  | idle (operator : String) (height : Nat) : Does config (.recheck operator height) .idle
  | jail (operator : String) (height : Nat) :
      Does config (.recheck operator height) (.jail operator)
  | refresh (operator : String) :
      Does config (.refetch operator) (.refresh config.accountPrefix operator)

namespace Engine

variable [Chain κ] (hκ : Chain.Faithful κ) (config : TrackerConfig)
include hκ

theorem acts_perform {job : Job} (hD : ∀ d, job.Does config d → D d) :
    Keeps (Acts (κ := κ) D J) (perform config job) w := by
  cases job with
  | keep block => exact acts_commit (hD _ (.keep block)) (.keep _ block _)
  | scan height =>
    exact acts_scanAndAnnounce hκ config (fun op => hD _ (.scan height (.refresh op)))
      (fun op => hD _ (.scan height (.enrol op))) (fun op => hD _ (.scan height (.restart op)))
      (fun op => hD _ (.scan height (.welcome op))) height
  | refreshWindow => exact acts_refreshWindow.discard
  | report interval height =>
    exact (Report.acts_pass (fun op => hD _ (.report interval height op)) interval height).discard
  | recheck op height =>
    refine Keeps.bind Acts.composable (Keeps.isolate ?_).discard fun _ _ =>
      Acts.still rfl rfl rfl rfl
    exact acts_checkJailed (hD _ (.idle op height)) (hD _ (.jail op height)) height
  | refetch op => exact (Registry.acts_refreshOne hκ (hD _ (.refresh op))).discard

end Engine

/-! ## Draining -/

namespace Engine

variable [Chain κ] (config : TrackerConfig)

/-- Jobs one after another, whether or not they fail. -/
def performAll (jobs : List Job) : Work κ Memory Unit :=
  jobs.forM fun job => discard (attempt (perform config job))

theorem performAll_cons (job : Job) (jobs : List Job) (w : World κ Memory) :
    ((performAll config (job :: jobs)).runIn w).2 =
        ((performAll config jobs).runIn ((perform config job).runIn w).2).2 ∧
      (performAll config (job :: jobs)).effects w = (perform config job).effects w ++
        (performAll config jobs).effects ((perform config job).runIn w).2 := by
  constructor
  · show ((discard (attempt (perform config job)) >>= fun _ =>
      performAll config jobs).runIn w).2 = _
    rw [runIn_bind, runIn_discard, runIn_attempt]
    rfl
  · show (discard (attempt (perform config job)) >>= fun _ => performAll config jobs).effects w = _
    rw [effects_bind, effects_discard, effects_attempt, runIn_discard, runIn_attempt]
    rfl

/-- Draining does all jobs that are put off, while nothing is. -/
theorem drain_eq_performAll (w : World κ Memory) :
    ((drain config).runIn w).2 =
        ((performAll config w.backlog).runIn { w with backlog := [] }).2 ∧
      (drain config).effects w =
        (performAll config w.backlog).effects { w with backlog := [] } := by
  constructor
  · rw [drain, runIn_bind, runIn_get]
    rfl
  · rw [drain, effects_bind, runIn_get, effects_get]
    rfl

/-- Draining keeps to what all jobs keep to. -/
theorem keeps_drain {R : World κ Memory → List (Effect Memory) → World κ Memory → Prop}
    (hR : Composable R) (h : ∀ job ∈ w.backlog, ∀ v, Keeps R (perform config job) v) :
    R { w with backlog := [] } ((drain config).effects w) ((drain config).runIn w).2 := by
  have hjobs : Keeps R (performAll config w.backlog) { w with backlog := [] } :=
    keeps_forM hR (fun _ => True) (fun job hjob v _ => ⟨(h job hjob v).attempt.discard, trivial⟩)
      trivial
  obtain ⟨hrun, heff⟩ := drain_eq_performAll config w
  rw [hrun, heff]
  exact hjobs

end Engine

end Liveness
