import Liveness.Proofs.Operations
import Liveness.Proofs.Rows

/-!
# Blocks without transactions

A block without transactions changes the subscriptions by its votes alone: every tracked validator
with a record sees the block, and the alerts of the block are those that these observations call
for, in the order of the operators.
-/

namespace Liveness

open Work

/-- The subscriptions of a store after a block, of which the tracked ones see it. -/
def Memory.seen (config : TrackerConfig) (b : Block) (window : Float) (s : Memory) :
    List Subscription :=
  s.subscriptions.map fun sub =>
    if Engine.isTracked config sub then
      sub.seen config b window (s.validator? sub.operator)
    else sub

/-- The alerts that a block calls for. -/
def Memory.alerts (config : TrackerConfig) (b : Block) (window : Float) (s : Memory) :
    List (List String × Message) :=
  (s.subscriptions.filter (Engine.isTracked config)).filterMap fun sub =>
    sub.alert? config b window (s.validator? sub.operator)

namespace Engine

variable {κ : Type} {config : TrackerConfig} {b : Block} {w : World κ Memory}
  {operator : String}

/-! ## The votes -/

theorem window_update (operator : String) :
    ((update config b operator).runIn w).2.window = w.window := by
  obtain ⟨_, _, _, _, hrun, -, -⟩ := update_frame config b operator w
  rw [hrun]

/-- All updates together show the block once to each of the validators. -/
theorem subscription?_updateAll {operators : List String} (hn : operators.Nodup) :
    ((updateAll config b operators).runIn w).2.store.subscription? operator =
      if operator ∈ operators then
        (w.store.subscription? operator).map
          (·.seen config b w.window (w.store.validator? operator))
      else w.store.subscription? operator := by
  rw [world_updateAll]
  induction operators generalizing w with
  | nil => rfl
  | cons first rest ih =>
    obtain ⟨hfirst, hrest⟩ := List.nodup_cons.mp hn
    rw [List.foldl_cons, ih hrest, subscription?_update, validator?_update, window_update]
    by_cases hop : first = operator
    · subst hop
      rw [if_neg hfirst, if_pos rfl, if_pos List.mem_cons_self]
    · have hmem : operator ∈ first :: rest ↔ operator ∈ rest := by
        simp [Ne.symm hop]
      rw [if_neg hop]
      by_cases hin : operator ∈ rest
      · rw [if_pos hin, if_pos (hmem.mpr hin)]
      · rw [if_neg hin, if_neg fun h => hin (hmem.mp h)]

theorem window_updateAll (operators : List String) :
    ((updateAll config b operators).runIn w).2.window = w.window := by
  rw [world_updateAll]
  induction operators generalizing w with
  | nil => rfl
  | cons first rest ih => exact ih.trans (window_update first)

/-- The updates leave the subscriptions in order. -/
theorem sorted_updateAll (operators : List String)
    (hs : Rows.Sorted Subscription.operator w.store.subscriptions) :
    Rows.Sorted Subscription.operator
      ((updateAll config b operators).runIn w).2.store.subscriptions := by
  rw [world_updateAll]
  induction operators generalizing w with
  | nil => exact hs
  | cons first rest ih =>
    refine ih ?_
    rcases store_update config b first w with h | h
    · rw [h]
      exact hs
    · generalize ((update config b first).runIn w).2.store = s' at h
      cases h with
      | intro found window _ _ => exact Rows.sorted_put hs _

/-- The counts do not matter for the effects. -/
theorem effects_count (operators : List String) (o : Outcome) (w : World κ Memory) :
    (operators.foldlM (fun o operator => return o.count (← attempt (update config b operator))) o :
        Work κ Memory Outcome).effects w =
      (updateAll config b operators).effects w := by
  rw [updateAll]
  generalize Outcome.zero = o'
  induction operators generalizing o o' w with
  | nil => rfl
  | cons operator rest ih =>
    simp only [List.foldlM_cons, effects_bind, runIn_bind, runIn_attempt, runIn_pure,
      effects_attempt, effects_pure]
    rw [ih]

theorem effects_updateAll_cons (operator : String) (rest : List String) :
    (updateAll config b (operator :: rest)).effects w =
      (update config b operator).effects w ++
        (updateAll config b rest).effects ((update config b operator).runIn w).2 := by
  rw [← effects_count rest (Outcome.zero.count ((update config b operator).runIn w).1)]
  simp only [updateAll, List.foldlM_cons, effects_bind, runIn_bind, runIn_attempt, runIn_pure,
    effects_attempt, effects_pure, List.append_nil]

theorem alerts_update :
    ((update config b operator).effects w).filterMap Effect.alert? =
      ((w.store.subscription? operator).bind
        (·.alert? config b w.window (w.store.validator? operator))).toList := by
  rw [sent_update config b fun _ => rfl]
  refine congrArg Option.toList ?_
  cases hs : w.store.subscription? operator with
  | none => rfl
  | some sub =>
    rw [Option.bind_some]
    cases ha : sub.alert? config b w.window (w.store.validator? operator) with
    | none => rfl
    | some p =>
      obtain ⟨targets, message⟩ := p
      obtain ⟨r, counter, level, -, -, rfl⟩ := Subscription.exists_of_alert? ha
      rfl

/-- All updates together send the alerts of the single ones. -/
theorem alerts_updateAll {operators : List String} (hn : operators.Nodup) :
    ((updateAll config b operators).effects w).filterMap Effect.alert? =
      operators.filterMap fun operator => (w.store.subscription? operator).bind
        (·.alert? config b w.window (w.store.validator? operator)) := by
  induction operators generalizing w with
  | nil => rfl
  | cons first rest ih =>
    obtain ⟨hfirst, hrest⟩ := List.nodup_cons.mp hn
    rw [effects_updateAll_cons, List.filterMap_append, ih hrest, alerts_update]
    have hsame : ∀ operator ∈ rest,
        (((update config b first).runIn w).2.store.subscription? operator).bind
            (·.alert? config b ((update config b first).runIn w).2.window
              (((update config b first).runIn w).2.store.validator? operator)) =
          (w.store.subscription? operator).bind
            (·.alert? config b w.window (w.store.validator? operator)) := by
      intro operator hin
      have hne : first ≠ operator := fun h => hfirst (h ▸ hin)
      rw [subscription?_update, if_neg hne, validator?_update, window_update]
    rw [List.filterMap_congr hsame]
    cases h : (w.store.subscription? first).bind
      (·.alert? config b w.window (w.store.validator? first)) with
    | none => simp only [List.filterMap_cons, h, Option.toList_none, List.nil_append]
    | some p => simp only [List.filterMap_cons, h, Option.toList_some, List.singleton_append]

/-- What is left to do after the updates is a recheck or a refetch, unless it was there before. -/
theorem mem_backlog_updateAll {operators : List String} {job : Job}
    (h : job ∈ ((updateAll config b operators).runIn w).2.backlog) :
    job ∈ w.backlog ∨ ∃ operator, job = .refetch operator ∨ job = .recheck operator b.height := by
  rw [world_updateAll] at h
  induction operators generalizing w with
  | nil => exact Or.inl h
  | cons first rest ih =>
    rcases ih h with h | h
    · obtain ⟨_, _, _, jobs, hrun, -, hjobs⟩ := update_frame config b first w
      replace h : job ∈ ((update config b first).runIn w).2.backlog := h
      rw [hrun] at h
      rcases List.mem_append.mp h with h | h
      · exact Or.inl h
      · exact Or.inr ⟨first, hjobs job h⟩
    · exact Or.inr h

/-! ## The tracked validators -/

section Tracked

variable {s : Memory} (hs : Rows.Sorted Subscription.operator s.subscriptions)
include hs

theorem nodup_tracked : (tracked config s).Nodup :=
  Rows.nodup_keys (List.Pairwise.filter (isTracked config) hs)

theorem mem_tracked_iff {sub : Subscription} (hsub : s.subscription? operator = some sub) :
    operator ∈ tracked config s ↔ isTracked config sub = true := by
  constructor
  · intro hmem
    obtain ⟨other, hother, hop⟩ := List.mem_map.mp hmem
    obtain ⟨hin, ht⟩ := List.mem_filter.mp hother
    have hfind : s.subscription? operator = some other :=
      (Rows.find?_eq_some_iff hs).mpr ⟨hin, hop⟩
    obtain rfl := Option.some.inj (hsub.symm.trans hfind)
    exact ht
  · intro ht
    refine List.mem_map.mpr ⟨sub, List.mem_filter.mpr ⟨Memory.mem_of_subscription? hsub, ht⟩, ?_⟩
    exact Memory.operator_of_subscription? hsub

/-- The updates of the tracked validators show the block to all their subscriptions. -/
theorem subscriptions_updateAll (hw : w.store.subscriptions = s.subscriptions)
    (hv : w.store.validators = s.validators) :
    ((updateAll config b (tracked config s)).runIn w).2.store.subscriptions =
      s.seen config b w.window := by
  have hws : Rows.Sorted Subscription.operator w.store.subscriptions := by rwa [hw]
  have hkey : ∀ sub : Subscription, (if isTracked config sub then
      sub.seen config b w.window (s.validator? sub.operator) else sub).operator = sub.operator := by
    intro sub
    split
    · exact Subscription.operator_seen sub
    · rfl
  -- rows in order are told by what is found in them
  refine Rows.eq_of_find?_eq (sorted_updateAll _ hws) (Rows.sorted_map hkey hs) fun operator => ?_
  rw [Memory.seen, Rows.find?_map hkey]
  refine (subscription?_updateAll (nodup_tracked hs)).trans ?_
  rw [Memory.subscription?_congr hw, Memory.validator?_congr hv]
  show _ = (s.subscription? operator).map _
  cases hf : s.subscription? operator with
  | none => simp
  | some sub =>
    obtain rfl := Memory.operator_of_subscription? hf
    simp only [Option.map_some, mem_tracked_iff hs hf]
    split <;> rfl

/-- They send the alerts of all their subscriptions. -/
theorem alerts_updateAll_tracked (hw : w.store.subscriptions = s.subscriptions)
    (hv : w.store.validators = s.validators) :
    ((updateAll config b (tracked config s)).effects w).filterMap Effect.alert? =
      s.alerts config b w.window := by
  rw [alerts_updateAll (nodup_tracked hs), tracked, List.filterMap_map]
  refine List.filterMap_congr fun sub hsub => ?_
  have hfind : w.store.subscription? sub.operator = some sub := by
    rw [Memory.subscription?_congr hw]
    exact (Rows.find?_eq_some_iff hs).mpr ⟨(List.mem_filter.mp hsub).1, rfl⟩
  simp only [Function.comp_apply, hfind, Memory.validator?_congr hv, Option.bind_some]

end Tracked

/-! ## What is due -/

theorem mem_dueJobs (htxs : b.txs = 0) {job : Job} (h : job ∈ w.dueJobs config b) :
    job = .keep b.record ∨ job = .refreshWindow ∨
      ∃ interval height, job = .report interval height := by
  simp only [World.dueJobs, htxs, Nat.lt_irrefl, if_false, List.nil_append, List.mem_cons,
    List.mem_append] at h
  rcases h with rfl | h | h
  · exact Or.inl rfl
  · split at h
    · exact Or.inr (Or.inl (List.mem_singleton.mp h))
    · cases h
  · split at h
    · exact Or.inr (Or.inr ⟨_, _, List.mem_singleton.mp h⟩)
    · cases h

variable (config b) in
/-- The block is taken, has no transactions, and nothing but keeping it is due. -/
structure Calm (w : World κ Memory) : Prop where
  newer : w.lastHeight < b.height
  txs : b.txs = 0
  refresh : refreshDue config b.height = false
  report : (w.reports.crosses b.height).1 = false

theorem calm_iff : Calm config b w ↔ w.lastHeight < b.height ∧ b.txs = 0 ∧
    refreshDue config b.height = false ∧ (w.reports.crosses b.height).1 = false :=
  ⟨fun h => ⟨h.newer, h.txs, h.refresh, h.report⟩, fun h => ⟨h.1, h.2.1, h.2.2.1, h.2.2.2⟩⟩

instance : Decidable (Calm config b w) := decidable_of_iff _ calm_iff.symm

theorem Calm.dueJobs (h : Calm config b w) : w.dueJobs config b = [.keep b.record] := by
  simp [World.dueJobs, h.txs, h.refresh, h.report]

/-! ## Steps that spare the subscriptions -/

/-- A step that changes no subscription and not the window, and alerts nobody. -/
structure Spares (w : World κ Memory) (es : List (Effect Memory)) (w' : World κ Memory) :
    Prop where
  subscriptions : w'.store.subscriptions = w.store.subscriptions
  window : w'.window = w.window
  height : w'.lastHeight = w.lastHeight
  silent : es.filterMap Effect.alert? = []

theorem Spares.composable : Composable (Spares (κ := κ)) where
  nil w := ⟨rfl, rfl, rfl, rfl⟩
  append {w₁ w₂ w₃ es₁ es₂} h₁ h₂ :=
    { subscriptions := h₂.subscriptions.trans h₁.subscriptions
      window := h₂.window.trans h₁.window
      height := h₂.height.trans h₁.height
      silent := by rw [List.filterMap_append, h₁.silent, h₂.silent, List.append_nil] }

variable [Chain κ]

/-! ## Before the votes -/

variable (config) in
/-- Before the votes are counted the block is kept, the window may be refreshed, and reports may be
sent. -/
theorem counting_of_no_txs (hb : w.backlog = []) (htxs : b.txs = 0) :
    (counting config b w).store.subscriptions = w.store.subscriptions ∧
      (counting config b w).store.validators = w.store.validators ∧
      (counting config b w).backlog = [] ∧ (counting config b w).lastHeight = b.height ∧
      ((drain config).effects (w.accept config b)).filterMap Effect.alert? = [] := by
  let P : Memory → Prop := fun s =>
    s.subscriptions = w.store.subscriptions ∧ s.validators = w.store.validators
  have h : Maintains P { w.accept config b with backlog := [] }
      ((drain config).effects (w.accept config b)) (counting config b w) := by
    refine keeps_drain config Maintains.composable fun job hjob v => ?_
    have hdue : job ∈ w.dueJobs config b := by simpa [World.accept, hb] using hjob
    rcases mem_dueJobs htxs hdue with rfl | rfl | ⟨interval, height, rfl⟩
    · exact maintains_commit fun hv => hv
    · exact maintains_refreshWindow.discard
    · exact (Report.maintains_pass interval height).discard
  obtain ⟨hsubs, hvals⟩ := h.store ⟨rfl, rfl⟩
  exact ⟨hsubs, hvals, h.backlog, h.height, h.silent⟩

/-! ## After the votes -/

theorem spares_checkJailed (operator : String) (height : Nat) :
    Keeps Spares (checkJailed operator height) w := by
  cases hm : Registry.marked? (w.answer operator) (w.store.validator? operator) with
  | none =>
    obtain ⟨o, -, -, hw, he | he⟩ := checkJailed_of_none height hm
    · rw [Keeps, hw, he]
      exact ⟨rfl, rfl, rfl, rfl⟩
    · rw [Keeps, hw, he]
      exact ⟨rfl, rfl, rfl, rfl⟩
  | some r =>
    obtain ⟨hw, he⟩ := checkJailed_of_some height hm
    rw [Keeps, hw, he]
    exact ⟨rfl, rfl, rfl, rfl⟩

theorem spares_refreshOne (operator : String) :
    Keeps Spares (Registry.refreshOne config.accountPrefix operator) w := by
  cases hf : Registry.fetched config.accountPrefix (w.answer operator) with
  | error e =>
    obtain ⟨hw, he⟩ := Registry.refreshOne_of_error hf
    rw [Keeps, hw, he]
    exact ⟨rfl, rfl, rfl, rfl⟩
  | ok r =>
    obtain ⟨hw, he⟩ := Registry.refreshOne_of_ok hf
    rw [Keeps, hw, he]
    exact ⟨rfl, rfl, rfl, rfl⟩

variable (config) in
/-- The rechecks and refetches of a block spare the subscriptions. -/
theorem spares_late (hb : (counting config b w).backlog = []) :
    Spares { counted config b w with backlog := [] } ((drain config).effects (counted config b w))
      ((drain config).runIn (counted config b w)).2 := by
  refine keeps_drain config Spares.composable fun job hjob v => ?_
  rcases mem_backlog_updateAll hjob with h | ⟨operator, rfl | rfl⟩
  · rw [hb] at h
    cases h
  · exact (spares_refreshOne operator).discard
  · refine Keeps.bind Spares.composable (spares_checkJailed operator b.height).isolate.discard
      fun _ _ => ?_
    exact ⟨rfl, rfl, rfl, rfl⟩

/-! ## The block -/

variable (config) in
/-- What a block without transactions that is taken does to the subscriptions, and the alerts that
it sends. -/
theorem block_of_no_txs (hb : w.backlog = [])
    (hs : Rows.Sorted Subscription.operator w.store.subscriptions) (hlt : w.lastHeight < b.height)
    (htxs : b.txs = 0) :
    let w' := (((Action.block b).step config).runIn w).2
    w'.store.subscriptions = w.store.seen config b w'.window ∧
      (((Action.block b).step config).effects w).filterMap Effect.alert? =
        w.store.alerts config b w'.window ∧
      w'.lastHeight = b.height ∧ w'.backlog = [] := by
  intro w'
  obtain ⟨hsubs, hvals, hbl, hheight, hsilent⟩ := counting_of_no_txs config hb htxs
  obtain ⟨hle, -⟩ | ⟨-, ⟨hnone, hrun, heff⟩ | ⟨-, hrun, heff⟩⟩ := Action.block_cases config b hb
  · exact absurd hlt (Nat.not_lt.mpr hle)
  · have hfilter : w.store.subscriptions.filter (isTracked config) = [] :=
      List.map_eq_nil_iff.mp hnone
    have huntracked := List.filter_eq_nil_iff.mp hfilter
    refine ⟨?_, ?_, ?_, ?_⟩
    · show (((Action.block b).step config).runIn w).2.store.subscriptions = _
      rw [hrun, hsubs, Memory.seen]
      refine ((List.map_congr_left fun sub hsub => ?_).trans (List.map_id _)).symm
      rw [if_neg (huntracked sub hsub)]
      rfl
    · rw [heff, hsilent, Memory.alerts, hfilter]
      rfl
    · exact (congrArg World.lastHeight hrun).trans hheight
    · exact (congrArg World.backlog hrun).trans hbl
  · have hlate := spares_late config hbl
    have hwindow : w'.window = (counting config b w).window :=
      (congrArg World.window hrun).trans (hlate.window.trans (window_updateAll _))
    rw [hwindow]
    refine ⟨?_, ?_, ?_, ?_⟩
    · show (((Action.block b).step config).runIn w).2.store.subscriptions = _
      rw [hrun, hlate.subscriptions]
      exact subscriptions_updateAll hs hsubs hvals
    · rw [heff, List.filterMap_append, List.filterMap_append, hsilent, hlate.silent,
        List.nil_append, List.append_nil]
      exact alerts_updateAll_tracked hs hsubs hvals
    · have hcounted :=
        (acts_updateAll config b (tracked config w.store) (counting config b w)).height
      exact (congrArg World.lastHeight hrun).trans (hlate.height.trans (hcounted.trans hheight))
    · exact (congrArg World.backlog hrun).trans (backlog_drain config _)

/-! ## Calm blocks -/

/-- The votes of a calm block are counted when it was kept. -/
theorem Calm.counting (h : Calm config b w) (hb : w.backlog = []) :
    Engine.counting config b w = { w with
      lastHeight := b.height
      reports := (w.reports.crosses b.height).2
      store := w.store.insertBlock b.record config.blockLimit
      backlog := [] } := by
  have hjobs : (w.accept config b).backlog = [.keep b.record] := by
    rw [World.accept, hb, h.dueJobs]
    rfl
  simp only [Engine.counting, drain, runIn_bind, runIn_get, runIn_modify, hjobs]
  rfl

/-- A calm block leaves the slashing window as it is. -/
theorem Calm.window (h : Calm config b w) (hb : w.backlog = []) :
    (((Action.block b).step config).runIn w).2.window = w.window := by
  have hcounting : (Engine.counting config b w).window = w.window := by rw [h.counting hb]
  rcases Action.block_cases config b hb with ⟨hle, -⟩ | ⟨-, ⟨-, hrun, -⟩ | ⟨-, hrun, -⟩⟩
  · exact absurd h.newer (Nat.not_lt.mpr hle)
  · rw [hrun, hcounting]
  · have hlate := spares_late config (b := b) (w := w) (by rw [h.counting hb])
    rw [hrun]
    exact hlate.window.trans ((window_updateAll _).trans hcounting)

end Engine

end Liveness
