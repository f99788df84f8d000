import Liveness.Proofs.Jobs

/-!
# What is written whatever the chain answers

A chain may answer a query about one operator with another. Still the registry and the work put off
write little: blocks, records as the chain tells them, marks of jailings, fresh subscriptions and
restarts. A property of the store that all these writes keep is kept by every step made of them,
and none of these steps takes a block, puts work off or alerts anybody.
-/

namespace Liveness

open Work

/-! ## Writes -/

/-- What one write of the registry or of work put off does to a store. -/
inductive Memory.Upkeep (accountPrefix : String) : Memory → Memory → Prop where
  | keep (s : Memory) (block : BlockRecord) (limit : Nat) :
      Upkeep accountPrefix s (s.insertBlock block limit)
  | refresh (s : Memory) {snapshot : Snapshot} {r : ValidatorRecord}
      (hr : Registry.recordOf accountPrefix snapshot = .ok r) :
      Upkeep accountPrefix s (s.putValidator r)
  | jail {s : Memory} {operator : String} {r : ValidatorRecord}
      (hr : s.validator? operator = some r) :
      Upkeep accountPrefix s (s.putValidator { r with jailed := true })
  | enrol {s : Memory} {operator : String} (hs : s.subscription? operator = none) :
      Upkeep accountPrefix s (s.putSubscription (.fresh operator))
  | restart {s : Memory} {operator : String} {sub : Subscription}
      (hs : s.subscription? operator = some sub) :
      Upkeep accountPrefix s (s.putSubscription { sub with tracking := sub.tracking.restart })

/-- What one write of a target's request does to a store. -/
inductive Memory.Enlist (trackAll : Bool) : Memory → Memory → Prop where
  | follow {s : Memory} {operator target : String} {sub sub' : Subscription}
      (hs : s.subscription? operator = some sub) (ht : sub.addSubscriber? target = some sub') :
      Enlist trackAll s (s.putSubscription { sub with subscribers := sub'.subscribers })
  | unfollow {s : Memory} {operator target : String} {sub sub' : Subscription}
      (hs : s.subscription? operator = some sub) (ht : sub.removeSubscriber? target = some sub') :
      Enlist trackAll s (s.putSubscription { sub with subscribers := sub'.subscribers })
  | drop {s : Memory} {operator target : String} {sub sub' : Subscription}
      (hs : s.subscription? operator = some sub) (ht : sub.removeSubscriber? target = some sub')
      (hl : sub'.hasSubscribers = false) (hn : trackAll = false) :
      Enlist trackAll s (s.deleteSubscription operator)

/-- Every write of a kind keeps the property. -/
def Memory.KeptBy (write : Memory → Memory → Prop) (P : Memory → Prop) : Prop :=
  ∀ s s', write s s' → P s → P s'

/-- An alert, with those it is sent to. -/
def Effect.alert? {σ : Type} : Effect σ → Option (List String × Message)
  | .sent targets (.missed r counter height level) => some (targets, .missed r counter height level)
  | .sent _ (.jailed _ _) | .sent _ (.unjailed _ _) | .sent _ (.report _) | .stored _ => none

/-! ## Steps that keep a property -/

/-- A step that keeps a property of the store. It takes no block, puts no work off, begins no
recheck and alerts nobody. -/
structure Maintains {κ : Type} (P : Memory → Prop) (w : World κ Memory) (es : List (Effect Memory))
    (w' : World κ Memory) : Prop where
  store : P w.store → P w'.store
  height : w'.lastHeight = w.lastHeight
  backlog : w'.backlog = w.backlog
  rechecking : ∀ operator ∈ w'.rechecking, operator ∈ w.rechecking
  silent : es.filterMap Effect.alert? = []

namespace Maintains

variable {κ α : Type} {P : Memory → Prop} {w w' : World κ Memory}

/-- A step that leaves the store and all but the chain, the window and the outbox as it was. -/
theorem still {es : List (Effect Memory)} (hs : w'.store = w.store)
    (hh : w'.lastHeight = w.lastHeight) (hb : w'.backlog = w.backlog)
    (hr : w'.rechecking = w.rechecking) (hes : es.filterMap Effect.alert? = []) :
    Maintains P w es w' where
  store := fun h => hs ▸ h
  height := hh
  backlog := hb
  rechecking := fun _ h => hr ▸ h
  silent := hes

theorem composable : Composable (Maintains (κ := κ) P) where
  nil w := still rfl rfl rfl rfl rfl
  append {w₁ w₂ w₃ es₁ es₂} h₁ h₂ :=
    { store := fun h => h₂.store (h₁.store h)
      height := h₂.height.trans h₁.height
      backlog := h₂.backlog.trans h₁.backlog
      rechecking := fun operator h => h₁.rechecking operator (h₂.rechecking operator h)
      silent := by rw [List.filterMap_append, h₁.silent, h₂.silent, List.append_nil] }

theorem rechecking_eq_nil {es : List (Effect Memory)} (h : Maintains P w es w')
    (hw : w.rechecking = []) : w'.rechecking = [] := by
  refine List.eq_nil_iff_forall_not_mem.mpr fun operator hop => ?_
  have hmem : operator ∈ w.rechecking := h.rechecking operator hop
  rw [hw] at hmem
  cases hmem

end Maintains

variable {κ : Type} {P : Memory → Prop} {w : World κ Memory}

namespace Work

variable {α : Type}

theorem maintains_ask (query : κ → Except Failure α × κ) : Keeps (Maintains P) (ask query) w :=
  Maintains.still rfl rfl rfl rfl rfl

theorem maintains_commit {change : Memory → Except Stop α × Memory}
    (h : P w.store → P (change w.store).2) : Keeps (Maintains P) (commit change) w where
  store := h
  height := rfl
  backlog := rfl
  rechecking := fun _ h => h
  silent := rfl

theorem maintains_broadcast {targets : List String} {message : Message}
    (hm : (Effect.sent (σ := Memory) targets message).alert? = none) :
    Keeps (Maintains P) (broadcast targets message) w := by
  refine Maintains.still rfl rfl rfl rfl ?_
  rw [effects_broadcast, List.filterMap_cons_none hm, List.filterMap_nil]

end Work

/-! ## The registry -/

namespace Registry

variable {accountPrefix operator : String}

theorem maintains_ensureSubscription (hP : Memory.KeptBy (Memory.Upkeep accountPrefix) P) :
    Keeps (Maintains (κ := κ) P) (ensureSubscription operator) w := by
  refine keeps_subscription?_bind Maintains.composable fun o hs => ?_
  cases o with
  | some sub => exact keeps_pure Maintains.composable _
  | none =>
    refine Keeps.bind Maintains.composable (Keeps.isolate ?_) fun o _ => ?_
    · refine maintains_commit fun hw => ?_
      rw [Memory.insertSubscription_of_none hs]
      exact hP _ _ (.enrol hs) hw
    · cases o with
      | ok u => exact keeps_pure Maintains.composable _
      | error f =>
        -- somebody else may have enrolled the operator in between
        refine keeps_subscription?_bind Maintains.composable fun o _ => ?_
        split
        · exact keeps_pure Maintains.composable _
        · exact keeps_fail Maintains.composable f

theorem maintains_restart (hP : Memory.KeptBy (Memory.Upkeep accountPrefix) P) :
    Keeps (Maintains (κ := κ) P) (restart operator) w := by
  refine keeps_subscription?_bind Maintains.composable fun o hs => ?_
  cases o with
  | none => exact keeps_pure Maintains.composable _
  | some sub =>
    refine maintains_commit fun hw => ?_
    rw [Memory.updateTracking_of_some hs]
    exact hP _ _ (.restart hs) hw

theorem maintains_upsert (hP : Memory.KeptBy (Memory.Upkeep accountPrefix) P) {s : Snapshot}
    {r : ValidatorRecord} (hr : recordOf accountPrefix s = .ok r) :
    Keeps (Maintains (κ := κ) P) (commit (Store.upsertValidator · r)) w :=
  maintains_commit fun hw => hP _ _ (.refresh _ hr) hw

variable [Chain κ]

theorem maintains_refreshOne (hP : Memory.KeptBy (Memory.Upkeep accountPrefix) P) :
    Keeps (Maintains (κ := κ) P) (refreshOne accountPrefix operator) w := by
  refine Keeps.bind Maintains.composable (maintains_ask _) fun s _ => ?_
  cases hr : recordOf accountPrefix s with
  | error e => exact keeps_fail_bind Maintains.composable e
  | ok r =>
    refine Keeps.bind Maintains.composable (keeps_pure Maintains.composable r) fun r' h => ?_
    obtain rfl : r = r' := Except.ok.inj h
    refine Keeps.bind Maintains.composable (maintains_upsert hP hr) fun _ _ => ?_
    exact keeps_pure Maintains.composable r

theorem maintains_refreshAll (hP : Memory.KeptBy (Memory.Upkeep accountPrefix) P) :
    Keeps (Maintains (κ := κ) P) (refreshAll accountPrefix) w := by
  refine Keeps.bind Maintains.composable (maintains_ask _) fun snapshots _ => ?_
  refine Keeps.bind Maintains.composable ?_ fun _ _ => keeps_pure Maintains.composable _
  refine keeps_forM Maintains.composable (fun _ => True) (fun r hr w _ => ⟨?_, trivial⟩) trivial
  obtain ⟨s, -, hs⟩ := List.mem_filterMap.mp hr
  exact maintains_upsert hP (eq_ok_of_toOption hs)

theorem maintains_bootstrap (hP : Memory.KeptBy (Memory.Upkeep accountPrefix) P) :
    Keeps (Maintains (κ := κ) P) (bootstrap accountPrefix) w := by
  refine Keeps.bind Maintains.composable (maintains_refreshAll hP) fun _ _ => ?_
  refine Keeps.fetch_bind Maintains.composable fun records _ => ?_
  refine Keeps.bind Maintains.composable ?_ fun _ _ => keeps_pure Maintains.composable _
  exact keeps_mapM Maintains.composable fun r _ w => maintains_ensureSubscription hP

theorem maintains_apply (hP : Memory.KeptBy (Memory.Upkeep accountPrefix) P) (m : Mutation) :
    Keeps (Maintains (κ := κ) P) (apply accountPrefix m) w := by
  refine Keeps.bind Maintains.composable (maintains_refreshOne hP) fun r _ => ?_
  have hpure : ∀ w, Keeps (Maintains P) (pure r : Work κ Memory _) w :=
    fun _ => keeps_pure Maintains.composable r
  cases m with
  | created op =>
    refine Keeps.bind Maintains.composable ?_ fun _ _ => hpure _
    exact (maintains_ensureSubscription hP).discard
  | edited op => exact hpure _
  | unjailed op =>
    dsimp only
    split
    · exact hpure _
    · exact Keeps.bind Maintains.composable (maintains_restart hP) fun _ _ => hpure _

theorem maintains_scan (hP : Memory.KeptBy (Memory.Upkeep accountPrefix) P) (height : Nat) :
    Keeps (Maintains (κ := κ) P) (scan accountPrefix height) w := by
  refine Keeps.bind Maintains.composable (maintains_ask _) fun txs _ => ?_
  refine Keeps.bind Maintains.composable ?_ fun _ _ => keeps_pure Maintains.composable _
  refine keeps_mapM Maintains.composable fun m _ w => ?_
  refine Keeps.bind Maintains.composable ?_ fun _ _ => keeps_pure Maintains.composable _
  exact (maintains_apply hP m).isolate

end Registry

/-! ## Following -/

namespace Following

variable {operator target : String}

theorem maintains_subscribe [Chain κ] {accountPrefix : String} {trackAll : Bool}
    (hP : Memory.KeptBy (Memory.Upkeep accountPrefix) P)
    (hE : Memory.KeptBy (Memory.Enlist trackAll) P) :
    Keeps (Maintains (κ := κ) P) (subscribe accountPrefix operator target) w := by
  unfold subscribe
  dsimp only
  split
  · exact keeps_fail_bind Maintains.composable _
  refine Keeps.bind Maintains.composable (Registry.maintains_refreshOne hP) fun r _ => ?_
  split
  · exact keeps_fail_bind Maintains.composable _
  refine Keeps.bind Maintains.composable (Registry.maintains_ensureSubscription hP) fun _ _ => ?_
  refine Registry.keeps_subscription?_bind Maintains.composable fun o hs => ?_
  cases o with
  | none => exact keeps_fail Maintains.composable _
  | some sub =>
    dsimp only
    split
    · exact keeps_pure Maintains.composable _
    · rename_i ht
      refine Keeps.bind Maintains.composable ?_ fun _ _ => keeps_pure Maintains.composable _
      refine maintains_commit fun hw => ?_
      rw [Memory.setSubscribers_of_some hs]
      exact hE _ _ (.follow hs ht) hw

theorem maintains_unsubscribe {trackAll : Bool} (hE : Memory.KeptBy (Memory.Enlist trackAll) P) :
    Keeps (Maintains (κ := κ) P) (unsubscribe trackAll operator target) w := by
  refine Registry.keeps_subscription?_bind Maintains.composable fun o hs => ?_
  cases o with
  | none => exact keeps_fail Maintains.composable _
  | some sub =>
    dsimp only
    split
    · exact keeps_fail Maintains.composable _
    · rename_i ht
      split
      · rename_i hl
        simp only [Bool.and_eq_true, Bool.not_eq_true'] at hl
        exact maintains_commit fun hw => hE _ _ (.drop hs ht hl.1 hl.2) hw
      · refine maintains_commit fun hw => ?_
        rw [Memory.setSubscribers_of_some hs]
        exact hE _ _ (.unfollow hs ht) hw

end Following

/-! ## Work put off -/

namespace Report

variable [Chain κ]

/-- A report writes nothing. -/
theorem maintains_ofSubscription (sub : Subscription) (blocks : List BlockRecord)
    (height interval : Nat) :
    Keeps (Maintains (κ := κ) P) (ofSubscription sub blocks height interval) w := by
  refine Keeps.fetch_bind Maintains.composable fun o _ => ?_
  cases o with
  | none => exact keeps_fail Maintains.composable _
  | some record =>
    refine Keeps.bind Maintains.composable (maintains_ask _) fun before _ => ?_
    refine Keeps.bind Maintains.composable (maintains_ask _) fun after _ => ?_
    refine Keeps.bind Maintains.composable (maintains_ask _) fun poolBefore _ => ?_
    refine Keeps.bind Maintains.composable (maintains_ask _) fun poolAfter _ => ?_
    exact keeps_pure Maintains.composable _

theorem maintains_pass (interval height : Nat) :
    Keeps (Maintains (κ := κ) P) (pass interval height) w := by
  refine Keeps.fetch_bind Maintains.composable fun subs _ => ?_
  refine Keeps.fetch_bind Maintains.composable fun blocks _ => ?_
  refine Keeps.bind Maintains.composable ?_ fun sent _ => ?_
  · refine keeps_mapM Maintains.composable fun sub _ w => Keeps.attempt ?_
    refine Keeps.bind Maintains.composable ?_ fun r _ => maintains_broadcast rfl
    exact maintains_ofSubscription sub blocks height interval
  · dsimp only
    split
    · exact Keeps.bind Maintains.composable (keeps_throw Maintains.composable _) fun _ _ =>
        keeps_pure Maintains.composable _
    · exact keeps_pure Maintains.composable _

end Report

namespace Engine

theorem maintains_announceUnjail (record : ValidatorRecord) (height : Nat) :
    Keeps (Maintains (κ := κ) P) (announceUnjail record height) w := by
  refine Keeps.bind Maintains.composable ?_ fun targets _ => ?_
  · exact Keeps.map (keeps_fetch Maintains.composable _) _
  · refine Keeps.bind Maintains.composable ?_ fun _ _ => keeps_pure Maintains.composable _
    exact maintains_broadcast rfl

variable [Chain κ]

theorem maintains_refreshWindow : Keeps (Maintains (κ := κ) P) refreshWindow w := by
  refine Keeps.bind Maintains.composable (maintains_ask _) fun params _ => ?_
  refine Keeps.bind Maintains.composable ?_ fun _ _ => keeps_pure Maintains.composable _
  exact Maintains.still rfl rfl rfl rfl rfl

theorem maintains_checkJailed {accountPrefix : String}
    (hP : Memory.KeptBy (Memory.Upkeep accountPrefix) P) (operator : String) (height : Nat) :
    Keeps (Maintains (κ := κ) P) (checkJailed operator height) w := by
  obtain ⟨chain, ⟨o, -, hw, he | he⟩ | ⟨r, hr, hj, hw, he⟩⟩ := checkJailed_cases operator height w
  · rw [Keeps, hw, he]
    exact Maintains.still rfl rfl rfl rfl rfl
  · rw [Keeps, hw, he]
    exact Maintains.still rfl rfl rfl rfl rfl
  · rw [Keeps, hw, he]
    exact ⟨hP _ _ (.jail hr), rfl, rfl, fun _ h => h, rfl⟩

variable (config : TrackerConfig)

theorem maintains_scanAndAnnounce (hP : Memory.KeptBy (Memory.Upkeep config.accountPrefix) P)
    (height : Nat) : Keeps (Maintains (κ := κ) P) (scanAndAnnounce config height) w := by
  refine Keeps.bind Maintains.composable (Registry.maintains_scan hP height) fun applied _ => ?_
  refine keeps_forM Maintains.composable (fun _ => True) (fun p _ w _ => ⟨?_, trivial⟩) trivial
  rcases p with ⟨op | op | op, record⟩
  · exact keeps_pure Maintains.composable ()
  · exact keeps_pure Maintains.composable ()
  · dsimp only
    split
    · exact keeps_pure Maintains.composable ()
    · exact (maintains_announceUnjail record height).isolate.discard

theorem maintains_perform (hP : Memory.KeptBy (Memory.Upkeep config.accountPrefix) P) (job : Job) :
    Keeps (Maintains (κ := κ) P) (perform config job) w := by
  cases job with
  | keep block => exact maintains_commit fun hw => hP _ _ (.keep _ block _) hw
  | scan height => exact maintains_scanAndAnnounce config hP height
  | refreshWindow => exact maintains_refreshWindow.discard
  | report interval height => exact (Report.maintains_pass interval height).discard
  | recheck op height =>
    refine Keeps.bind Maintains.composable (maintains_checkJailed hP op height).isolate.discard
      fun _ _ => ?_
    exact ⟨fun h => h, rfl, rfl, fun _ h => (List.mem_filter.mp h).1, rfl⟩
  | refetch op => exact (Registry.maintains_refreshOne hP).discard

/-- Draining does all the work there is. -/
theorem maintains_drain (hP : Memory.KeptBy (Memory.Upkeep config.accountPrefix) P)
    (w : World κ Memory) :
    Maintains P { w with backlog := [] } ((drain config).effects w)
      ((drain config).runIn w).2 :=
  keeps_drain config Maintains.composable fun job _ _ => maintains_perform config hP job

/-- After draining nothing is left to do. -/
theorem backlog_drain (w : World κ Memory) : ((drain config).runIn w).2.backlog = [] :=
  (maintains_drain config (P := fun _ => True) (fun _ _ _ _ => trivial) w).backlog

end Engine

end Liveness
