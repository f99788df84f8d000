import Liveness.Proofs.Blocks

/-!
# What blocks alone change

The latest height and the schedule of reports change when a block is taken, and at no other time:
neither a count of votes nor any work that was put off touches them, whatever the chain and the
store answer. Work that was put off puts off no more work. So a block leaves height and schedule as
taking it does, and what taking it puts off is done before anything else.
-/

namespace Liveness

open Work

/-- The latest height and the schedule of reports are as they were. -/
structure SameClock {κ σ : Type} (w : World κ σ) (es : List (Effect σ)) (w' : World κ σ) :
    Prop where
  height : w'.lastHeight = w.lastHeight
  reports : w'.reports = w.reports

/-- So they are, and so is the work that is put off. -/
structure Steady {κ σ : Type} (w : World κ σ) (es : List (Effect σ)) (w' : World κ σ) : Prop
    extends SameClock w es w' where
  backlog : w'.backlog = w.backlog

variable {κ σ α : Type} {w : World κ σ}

theorem SameClock.composable : Composable (SameClock (κ := κ) (σ := σ)) where
  nil := fun _ => ⟨rfl, rfl⟩
  append := fun h h' => ⟨h'.height.trans h.height, h'.reports.trans h.reports⟩

namespace Steady

theorem still {w' : World κ σ} {es : List (Effect σ)} (hh : w'.lastHeight = w.lastHeight)
    (hr : w'.reports = w.reports) (hb : w'.backlog = w.backlog) : Steady w es w' :=
  ⟨⟨hh, hr⟩, hb⟩

theorem composable : Composable (Steady (κ := κ) (σ := σ)) where
  nil := fun _ => still rfl rfl rfl
  append := fun h h' => ⟨SameClock.composable.append h.toSameClock h'.toSameClock,
    h'.backlog.trans h.backlog⟩

end Steady

namespace Work

theorem steady_ask (query : κ → Except Failure α × κ) :
    Keeps (Steady (σ := σ)) (ask query) w := Steady.still rfl rfl rfl

theorem steady_commit (change : σ → Except Stop α × σ) :
    Keeps (Steady (κ := κ)) (commit change) w := Steady.still rfl rfl rfl

theorem steady_broadcast (targets : List String) (m : Message) :
    Keeps (Steady (κ := κ) (σ := σ)) (broadcast targets m) w := Steady.still rfl rfl rfl

theorem steady_ofExcept (r : Except Failure α) :
    Keeps (Steady (κ := κ) (σ := σ)) (ofExcept r) w := by
  cases r with
  | error e => exact keeps_fail Steady.composable e
  | ok a => exact keeps_pure Steady.composable a

end Work

/-! ## The registry -/

namespace Registry

variable [Store σ] {accountPrefix operator : String}

theorem steady_subscription? : Keeps (Steady (κ := κ) (σ := σ)) (subscription? operator) w :=
  keeps_fetch Steady.composable _

theorem steady_ensureSubscription :
    Keeps (Steady (κ := κ) (σ := σ)) (ensureSubscription operator) w := by
  refine Keeps.bind Steady.composable steady_subscription? fun o _ => ?_
  cases o with
  | some sub => exact keeps_pure Steady.composable _
  | none =>
    refine Keeps.bind Steady.composable (steady_commit _).isolate fun o _ => ?_
    cases o with
    | ok u => exact keeps_pure Steady.composable _
    | error f =>
      refine Keeps.bind Steady.composable steady_subscription? fun o _ => ?_
      split
      · exact keeps_pure Steady.composable _
      · exact keeps_fail Steady.composable f

theorem steady_restart : Keeps (Steady (κ := κ) (σ := σ)) (restart operator) w := by
  refine Keeps.bind Steady.composable steady_subscription? fun o _ => ?_
  cases o with
  | none => exact keeps_pure Steady.composable _
  | some sub => exact steady_commit _

variable [Chain κ]

theorem steady_refreshOne :
    Keeps (Steady (κ := κ) (σ := σ)) (refreshOne accountPrefix operator) w := by
  refine Keeps.bind Steady.composable (steady_ask _) fun s _ => ?_
  refine Keeps.bind Steady.composable (steady_ofExcept _) fun r _ => ?_
  exact Keeps.bind Steady.composable (steady_commit _) fun _ _ => keeps_pure Steady.composable r

theorem steady_apply (m : Mutation) :
    Keeps (Steady (κ := κ) (σ := σ)) (apply accountPrefix m) w := by
  refine Keeps.bind Steady.composable steady_refreshOne fun r _ => ?_
  have hpure : ∀ w, Keeps Steady (pure r : Work κ σ _) w := fun _ => keeps_pure Steady.composable r
  cases m with
  | created op =>
    exact Keeps.bind Steady.composable steady_ensureSubscription.discard fun _ _ => hpure _
  | edited op => exact hpure _
  | unjailed op =>
    dsimp only
    split
    · exact hpure _
    · exact Keeps.bind Steady.composable steady_restart fun _ _ => hpure _

theorem steady_scan (height : Nat) :
    Keeps (Steady (κ := κ) (σ := σ)) (scan accountPrefix height) w := by
  refine Keeps.bind Steady.composable (steady_ask _) fun txs _ => ?_
  refine Keeps.bind Steady.composable ?_ fun _ _ => keeps_pure Steady.composable _
  refine keeps_mapM Steady.composable fun m _ w => ?_
  exact Keeps.bind Steady.composable (steady_apply m).isolate fun _ _ =>
    keeps_pure Steady.composable _

end Registry

/-! ## Reports -/

namespace Report

variable [Chain κ] [Store σ]

theorem steady_ofSubscription (sub : Subscription) (blocks : List BlockRecord)
    (height interval : Nat) :
    Keeps (Steady (κ := κ) (σ := σ)) (ofSubscription sub blocks height interval) w := by
  refine Keeps.fetch_bind Steady.composable fun o _ => ?_
  cases o with
  | none => exact keeps_fail Steady.composable _
  | some record =>
    refine Keeps.bind Steady.composable (steady_ask _) fun before _ => ?_
    refine Keeps.bind Steady.composable (steady_ask _) fun after _ => ?_
    refine Keeps.bind Steady.composable (steady_ask _) fun poolBefore _ => ?_
    refine Keeps.bind Steady.composable (steady_ask _) fun poolAfter _ => ?_
    exact keeps_pure Steady.composable _

theorem steady_pass (interval height : Nat) :
    Keeps (Steady (κ := κ) (σ := σ)) (pass interval height) w := by
  refine Keeps.fetch_bind Steady.composable fun subs _ => ?_
  refine Keeps.fetch_bind Steady.composable fun blocks _ => ?_
  refine Keeps.bind Steady.composable ?_ fun sent _ => ?_
  · refine keeps_mapM Steady.composable fun sub _ w => Keeps.attempt ?_
    exact Keeps.bind Steady.composable (steady_ofSubscription sub blocks height interval)
      fun r _ => steady_broadcast _ _
  · dsimp only
    split
    · exact Keeps.bind Steady.composable (keeps_throw Steady.composable _) fun _ _ =>
        keeps_pure Steady.composable _
    · exact keeps_pure Steady.composable _

end Report

/-! ## Work put off -/

namespace Engine

theorem steady_refreshWindow [Chain κ] :
    Keeps (Steady (κ := κ) (σ := σ)) refreshWindow w := by
  refine Keeps.bind Steady.composable (steady_ask _) fun params _ => ?_
  exact Keeps.bind Steady.composable (Steady.still rfl rfl rfl) fun _ _ =>
    keeps_pure Steady.composable _

variable [Store σ] {operator : String}

theorem steady_followers : Keeps (Steady (κ := κ) (σ := σ)) (followers operator) w :=
  Registry.steady_subscription?.map _

theorem steady_announceUnjail (record : ValidatorRecord) (height : Nat) :
    Keeps (Steady (κ := κ) (σ := σ)) (announceUnjail record height) w := by
  refine Keeps.bind Steady.composable steady_followers fun targets _ => ?_
  exact Keeps.bind Steady.composable (steady_broadcast _ _) fun _ _ =>
    keeps_pure Steady.composable _

variable [Chain κ]

theorem steady_checkJailed (height : Nat) :
    Keeps (Steady (κ := κ) (σ := σ)) (checkJailed operator height) w := by
  refine Keeps.bind Steady.composable (steady_ask _) fun s _ => ?_
  split
  · exact keeps_pure Steady.composable _
  refine Keeps.bind Steady.composable (steady_commit _) fun marked _ => ?_
  split
  · exact keeps_pure Steady.composable _
  refine Keeps.fetch_bind Steady.composable fun o _ => ?_
  cases o with
  | none => exact keeps_fail Steady.composable _
  | some record =>
    refine Keeps.bind Steady.composable steady_followers fun targets _ => ?_
    exact Keeps.bind Steady.composable (steady_broadcast _ _) fun _ _ =>
      keeps_pure Steady.composable _

variable (config : TrackerConfig)

theorem steady_scanAndAnnounce (height : Nat) :
    Keeps (Steady (κ := κ) (σ := σ)) (scanAndAnnounce config height) w := by
  refine Keeps.bind Steady.composable (Registry.steady_scan height) fun applied _ => ?_
  refine keeps_forM Steady.composable (fun _ => True) (fun p _ w _ => ⟨?_, trivial⟩) trivial
  rcases p with ⟨op | op | op, record⟩
  · exact keeps_pure Steady.composable ()
  · exact keeps_pure Steady.composable ()
  · dsimp only
    split
    · exact keeps_pure Steady.composable ()
    · exact (steady_announceUnjail record height).isolate.discard

theorem steady_perform (job : Job) : Keeps (Steady (κ := κ) (σ := σ)) (perform config job) w := by
  cases job with
  | keep block => exact steady_commit _
  | scan height => exact steady_scanAndAnnounce config height
  | refreshWindow => exact steady_refreshWindow.discard
  | report interval height => exact (Report.steady_pass interval height).discard
  | recheck op height =>
    exact Keeps.bind Steady.composable (steady_checkJailed height).isolate.discard fun _ _ =>
      Steady.still rfl rfl rfl
  | refetch op => exact Registry.steady_refreshOne.discard

/-- Draining leaves nothing to do. -/
theorem steady_drain (w : World κ σ) :
    Steady { w with backlog := [] } ((drain config).effects w) ((drain config).runIn w).2 := by
  rw [drain, runIn_bind, effects_bind, runIn_get, effects_get, List.nil_append]
  exact keeps_forM Steady.composable (fun _ => True)
    (fun job _ _ _ => ⟨(steady_perform config job).attempt.discard, trivial⟩) trivial

theorem sameClock_drain : Keeps (SameClock (κ := κ) (σ := σ)) (drain config) w :=
  ⟨(steady_drain config w).height, (steady_drain config w).reports⟩

/-! ## Counts of votes -/

omit [Chain κ] [Store σ] in
theorem sameClock_recheckLater (operator : String) (height : Nat) :
    Keeps (SameClock (κ := κ) (σ := σ)) (recheckLater operator height) w := by
  refine Keeps.bind SameClock.composable (SameClock.mk rfl rfl) fun v _ => ?_
  split
  · exact keeps_pure SameClock.composable ()
  · exact Keeps.bind SameClock.composable (SameClock.mk rfl rfl) fun _ _ => SameClock.mk rfl rfl

omit [Chain κ] in
theorem sameClock_update (b : Block) (operator : String) :
    Keeps (SameClock (κ := κ) (σ := σ)) (update config b operator) w := by
  refine Keeps.fetch_bind SameClock.composable fun o _ => ?_
  cases o with
  | none => exact keeps_pure SameClock.composable _
  | some sub =>
    refine Keeps.fetch_bind SameClock.composable fun o _ => ?_
    cases o with
    | none =>
      exact Keeps.bind SameClock.composable (SameClock.mk rfl rfl) fun _ _ =>
        keeps_pure SameClock.composable _
    | some record =>
      refine Keeps.bind SameClock.composable (SameClock.mk rfl rfl) fun v _ => ?_
      dsimp only
      split
      · exact keeps_pure SameClock.composable _
      have hcommit : ∀ (w : World κ σ) (t : Tracking) (o : Observation), Keeps SameClock
          (commit (Store.updateTracking · operator t) >>= fun _ => (pure o : Work κ σ _)) w :=
        fun w t o => Keeps.bind SameClock.composable (SameClock.mk rfl rfl) fun _ _ =>
          keeps_pure SameClock.composable o
      split
      · refine Keeps.bind SameClock.composable (SameClock.mk rfl rfl) fun _ _ => ?_
        exact Keeps.bind SameClock.composable (sameClock_recheckLater operator b.height)
          fun _ _ => hcommit _ _ _
      · exact hcommit _ _ _

omit [Chain κ] in
theorem sameClock_updateAll (b : Block) (operators : List String) :
    Keeps (SameClock (κ := κ) (σ := σ)) (updateAll config b operators) w := by
  refine keeps_foldlM SameClock.composable (fun _ => True) (fun operator _ o w _ => ⟨?_, trivial⟩)
    trivial
  exact Keeps.bind SameClock.composable (sameClock_update config b operator).attempt fun _ _ =>
    keeps_pure SameClock.composable _

/-! ## Blocks -/

/-- A block that is taken leaves the latest height and the schedule as taking it does. -/
theorem sameClock_handleBlock {b : Block} (h : w.lastHeight < b.height) :
    SameClock (w.accept config b) ((handleBlock config b).effects w)
      ((handleBlock config b).runIn w).2 := by
  obtain ⟨hw, he⟩ := runIn_accept config b w
  rw [handleBlock, runIn_bind, effects_bind, runIn_get, effects_get, List.nil_append]
  dsimp only
  rw [if_neg (Nat.not_le.mpr h), runIn_bind, effects_bind, hw, he, List.nil_append]
  dsimp only
  refine Keeps.bind SameClock.composable (keeps_fetch SameClock.composable _).isolate fun o _ => ?_
  cases o with
  | error e => exact keeps_pure SameClock.composable _
  | ok subs =>
    dsimp only
    split
    · exact keeps_pure SameClock.composable _
    refine Keeps.bind SameClock.composable (sameClock_drain config) fun _ _ => ?_
    refine Keeps.bind SameClock.composable (sameClock_updateAll config b _) fun o _ => ?_
    exact Keeps.bind SameClock.composable (sameClock_drain config) fun _ _ =>
      keeps_pure SameClock.composable o

/-- Once a block is settled nothing is left to do. -/
theorem backlog_settled (x : Work κ σ α) : ((settled config x).runIn w).2.backlog = [] := by
  rw [(runIn_settled config x w).1]
  exact (steady_drain config _).backlog

theorem sameClock_settled (x : Work κ σ α) :
    SameClock (x.runIn w).2 [] ((settled config x).runIn w).2 := by
  rw [(runIn_settled config x w).1]
  exact ⟨(steady_drain config _).height, (steady_drain config _).reports⟩

/-- What a block puts off when it is taken is done before anything else. -/
theorem effects_drain_prefix {b : Block} (h : w.lastHeight < b.height) :
    (drain config).effects (w.accept config b) <+:
      (settled config (handleBlock config b)).effects w := by
  obtain ⟨hw, he⟩ := runIn_accept config b w
  have hlate := Nat.not_le.mpr h
  rw [(runIn_settled config (handleBlock config b) w).2]
  cases hs : Store.allSubscriptions (w.accept config b).store with
  | error s =>
    cases s <;> simp [handleBlock, hlate, hw, he, hs]
  | ok subs =>
    by_cases ht : ∀ sub ∈ subs, isTracked config sub = false
    · simp [handleBlock, hlate, hw, he, hs, if_pos ht]
    · simp [handleBlock, hlate, hw, he, hs, if_neg ht]

end Engine

end Liveness
