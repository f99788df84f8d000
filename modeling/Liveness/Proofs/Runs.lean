import Liveness.Proofs.Blocks

/-!
# Runs

The engine and those who use it act one after another on a store that holds nothing at first, each
act together with all the work that it puts off. Between two acts the chain may become any other
one. Whatever happens, the store is what the effects say, what was sent is in the outbox, and
nothing is left to do.
-/

namespace Liveness

open Work

/-! ## Heights -/

/-- No history reaches beyond a height. -/
def Memory.Below (s : Memory) (height : Nat) : Prop :=
  ∀ operator, ∀ sub ∈ s.subscription? operator, ∀ e ∈ sub.tracking.history.newest?,
    e.height ≤ height

theorem Memory.Below.mono {s : Memory} {height height' : Nat} (h : s.Below height)
    (hle : height ≤ height') : s.Below height' :=
  fun operator sub hs e he => Nat.le_trans (h operator sub hs e he) hle

/-- Deeds that observe nothing beyond a height keep all histories below it. -/
theorem Deeds.keeps_below {D : Deed → Prop} {s : Memory} {es : List (Effect Memory)} {height : Nat}
    (h : Deeds D s es) (hD : ∀ operator h limit, D (.observe operator h limit) → h ≤ height)
    (hs : s.Below height) : (Effect.replay s es).Below height := by
  refine h.preserves (P := (·.Below height)) (fun d s es hd hl hs => ?_) hs
  intro operator sub' hsub' e he
  rcases hl.subscription_cases operator with h | ⟨-, -, h⟩ | ⟨-, -, h⟩ | ⟨sub, new, hsub, h, hnew⟩
  · exact hs operator sub' (h.symm.trans hsub') e he
  · obtain rfl := Option.some.inj (h.symm.trans hsub')
    cases he
  · exact absurd (h.symm.trans hsub') (by simp)
  · obtain rfl := Option.some.inj (h.symm.trans hsub')
    rcases hnew with ⟨-, rfl⟩ | ⟨_, _, -, rfl⟩ | ⟨height', limit, found, jailed, window, rfl, rfl⟩
    · exact hs operator sub hsub e he
    · exact hs operator sub hsub e he
    · rcases Tracking.newest_observe he with heq | he
      · rw [heq]
        exact hD _ _ _ hd
      · exact hs operator sub hsub e he

/-! ## Actions -/

/-- What is done on a store. -/
inductive Action (κ : Type) where
  /-- The chain moves on. -/
  | turn (chain : κ)
  /-- The records of all validators are written. -/
  | bootstrap
  /-- A target starts to follow an operator. -/
  | subscribe (operator target : String)
  /-- A target stops to follow an operator. -/
  | unsubscribe (operator target : String)
  /-- A block is handled. -/
  | block (b : Block)
  /-- A jailing is looked for. -/
  | checkJailed (operator : String) (height : Nat)
  /-- The transactions of a block are scanned. -/
  | scan (height : Nat)
  /-- The record of one validator is written. -/
  | refreshOne (operator : String)

namespace Action

variable {κ : Type} [Chain κ] (config : TrackerConfig)

/-- The step of an action. -/
def work : Action κ → Work κ Memory Unit
  | turn chain => modify fun w => { w with chain := chain }
  | bootstrap => discard (Registry.bootstrap config.accountPrefix)
  | subscribe operator target =>
    discard (Following.subscribe config.accountPrefix operator target)
  | unsubscribe operator target => Following.unsubscribe config.trackAll operator target
  | block b => discard (Engine.handleBlock config b)
  | checkJailed operator height => discard (Engine.checkJailed operator height)
  | scan height => discard (Registry.scan config.accountPrefix height)
  | refreshOne operator => discard (Registry.refreshOne config.accountPrefix operator)

/-- An action with all the work that it puts off, whether or not it fails. -/
def step (a : Action κ) : Work κ Memory Unit :=
  discard (attempt (Engine.settled config (a.work config)))

/-- The deeds of an action that is no block. -/
inductive Does : Action κ → Deed → Prop where
  | bootRefresh (operator : String) : Does bootstrap (.refresh config.accountPrefix operator)
  | bootEnrol (operator : String) : Does bootstrap (.enrol operator)
  | subscribeRefresh (operator target : String) :
      Does (subscribe operator target) (.refresh config.accountPrefix operator)
  | subscribeEnrol (operator target : String) : Does (subscribe operator target) (.enrol operator)
  | follow (operator target : String) :
      Does (subscribe operator target) (.follow operator target)
  | unfollow (operator target : String) :
      Does (unsubscribe operator target) (.unfollow operator target)
  | drop (operator target : String) : Does (unsubscribe operator target) (.drop operator target)
  | idle (operator : String) (height : Nat) : Does (checkJailed operator height) .idle
  | jail (operator : String) (height : Nat) : Does (checkJailed operator height) (.jail operator)
  | scan (height : Nat) {d : Deed} (hd : d.OfScan config.accountPrefix) : Does (scan height) d
  | refresh (operator : String) :
      Does (refreshOne operator) (.refresh config.accountPrefix operator)

variable {D : Deed → Prop} {J : Job → Prop} {w : World κ Memory} (hκ : Chain.Faithful κ)
include hκ

theorem acts_work {a : Action κ} (ha : ∀ b, a ≠ .block b) :
    Keeps (Acts (a.Does config) J) (a.work config) w := by
  cases a with
  | turn chain => exact Acts.still rfl rfl rfl rfl
  | bootstrap => exact (Registry.acts_bootstrap (.bootRefresh ·) (.bootEnrol ·)).discard
  | subscribe op target =>
    exact (Following.acts_subscribe hκ (.subscribeRefresh op target) (.subscribeEnrol op target)
      (.follow op target)).discard
  | unsubscribe op target =>
    exact Following.acts_unsubscribe (.unfollow op target) (.drop op target)
  | block b => exact absurd rfl (ha b)
  | checkJailed op height =>
    exact (Engine.acts_checkJailed (.idle op height) (.jail op height) height).discard
  | scan height =>
    exact (Registry.acts_scan hκ (fun op => .scan height (.refresh op))
      (fun op => .scan height (.enrol op)) (fun op => .scan height (.restart op)) height).discard
  | refreshOne op => exact (Registry.acts_refreshOne hκ (.refresh op)).discard

end Action

/-! ## Single acts -/

/-- Between two acts nothing is left to do, and no history reaches beyond the latest block. -/
structure World.Settled {κ : Type} (w : World κ Memory) : Prop where
  backlog : w.backlog = []
  below : w.store.Below w.lastHeight

/-- What shows of a step: its effects are those of deeds, the store is what they say, and what was
sent is in the outbox. -/
structure Shows {κ : Type} (w : World κ Memory) (es : List (Effect Memory)) (w' : World κ Memory) :
    Prop where
  deeds : Deeds (fun _ => True) w.store es
  store : w'.store = Effect.replay w.store es
  outbox : w'.outbox = w.outbox ++ es.flatMap Effect.deliveries

namespace Shows

variable {κ : Type} {w w' : World κ Memory} {es : List (Effect Memory)}

theorem composable : Composable (Shows (κ := κ)) where
  nil w := ⟨.nil _, rfl, by simp⟩
  append {w₁ w₂ w₃ es₁ es₂} h₁ h₂ :=
    { deeds := h₁.deeds.append (by rw [← h₁.store]; exact h₂.deeds)
      store := by rw [h₂.store, h₁.store, Effect.replay_append]
      outbox := by rw [h₂.outbox, h₁.outbox, List.flatMap_append, List.append_assoc] }

end Shows

theorem Acts.shows {κ : Type} {w w' : World κ Memory} {es : List (Effect Memory)}
    {D : Deed → Prop} {J : Job → Prop} (h : Acts D J w es w') : Shows w es w' :=
  ⟨h.deeds.mono fun _ _ => trivial, h.store, h.outbox⟩

namespace Action

variable {κ : Type} [Chain κ] (hκ : Chain.Faithful κ) (config : TrackerConfig)
  {w : World κ Memory}

theorem runIn_step (a : Action κ) (w : World κ Memory) :
    ((a.step config).runIn w).2 = ((Engine.settled config (a.work config)).runIn w).2 ∧
      (a.step config).effects w = (Engine.settled config (a.work config)).effects w := by
  simp [step]

include hκ in
/-- An action that is no block does its own deeds and nothing else. -/
theorem acts_step {a : Action κ} (ha : ∀ b, a ≠ .block b) (hb : w.backlog = []) :
    Acts (a.Does config) (fun _ => False) w ((a.step config).effects w)
      ((a.step config).runIn w).2 := by
  have h : Acts (a.Does config) (fun _ => False) w ((a.work config).effects w)
      ((a.work config).runIn w).2 := acts_work config hκ ha
  obtain ⟨hsw, hse⟩ := Engine.runIn_settled config (a.work config) w
  obtain ⟨hnil, hnone⟩ := Engine.drain_of_nil config (h.backlog_eq.trans hb)
  obtain ⟨hw, he⟩ := runIn_step config a w
  rw [hw, he, hsw, hse, hnil, hnone, List.append_nil]
  exact h

end Action

/-! ## Blocks as acts -/

theorem Job.Does.not_observe {config : TrackerConfig} {job : Job} {operator : String}
    {height limit : Nat} : ¬ job.Does config (.observe operator height limit) := by
  intro h
  cases h with
  | scan _ hd => cases hd

namespace Engine

variable {κ : Type} [Chain κ] (hκ : Chain.Faithful κ) (config : TrackerConfig) (b : Block)
  {w : World κ Memory}
include hκ

theorem shows_counting (hw : w.Settled) (hlt : w.lastHeight < b.height) :
    Shows w ((drain config).effects (w.accept config b)) (counting config b w) ∧
      (counting config b w).lastHeight = b.height ∧ (counting config b w).Settled := by
  have h := acts_counting hκ config b hw.backlog
  refine ⟨⟨h.shows.deeds, h.store, h.outbox⟩, h.height, h.backlog_eq.trans hw.backlog, ?_⟩
  rw [h.store, h.height]
  refine h.deeds.keeps_below ?_ (hw.below.mono (Nat.le_of_lt hlt))
  rintro op height limit ⟨job, -, hd⟩
  exact absurd hd Job.Does.not_observe

end Engine

theorem Action.Does.not_observe {κ : Type} {config : TrackerConfig} {a : Action κ}
    {operator : String} {height limit : Nat} :
    ¬ a.Does config (.observe operator height limit) := by
  intro h
  cases h with
  | scan _ hd => cases hd

namespace Action

open Engine

variable {κ : Type} [Chain κ] (hκ : Chain.Faithful κ) (config : TrackerConfig) (b : Block)
  {w : World κ Memory}

/-- A block is refused, or it ends with the routine work because nobody is tracked, or it goes
through all its phases. -/
theorem block_cases (hb : w.backlog = []) :
    let w' := (((block b).step config).runIn w).2
    let es := ((block b).step config).effects w
    let routine := (drain config).effects (w.accept config b)
    (b.height ≤ w.lastHeight ∧ w' = w ∧ es = []) ∨
      w.lastHeight < b.height ∧
        ((tracked config w.store = [] ∧ w' = counting config b w ∧ es = routine) ∨
          (tracked config w.store ≠ [] ∧ w' = ((drain config).runIn (counted config b w)).2 ∧
            es = routine ++
              ((updateAll config b (tracked config w.store)).effects (counting config b w) ++
                (drain config).effects (counted config b w)))) := by
  have hsame : (((block b).step config).runIn w).2 =
        ((settled config (handleBlock config b)).runIn w).2 ∧
      ((block b).step config).effects w = (settled config (handleBlock config b)).effects w := by
    obtain ⟨hw, he⟩ := runIn_step config (.block b) w
    obtain ⟨hsw, hse⟩ := runIn_settled config ((block b).work config) w
    obtain ⟨hbw, hbe⟩ := runIn_settled config (handleBlock config b) w
    rw [hw, he, hsw, hse, hbw, hbe]
    simp [work]
  intro w' es routine
  rcases Nat.lt_or_ge w.lastHeight b.height with hlt | hle
  · obtain ⟨hrun, heff⟩ := settled_handleBlock config b hlt
    refine Or.inr ⟨hlt, ?_⟩
    by_cases ht : tracked config w.store = []
    · refine Or.inl ⟨ht, hsame.1.trans ?_, hsame.2.trans ?_⟩
      · rw [hrun, if_pos ht]
      · rw [heff, if_pos ht, List.append_nil]
    · refine Or.inr ⟨ht, hsame.1.trans ?_, hsame.2.trans ?_⟩
      · rw [hrun, if_neg ht]
      · rw [heff, if_neg ht]
  · obtain ⟨hrun, heff⟩ := settled_handleBlock_of_le config b hb hle
    exact Or.inl ⟨hle, hsame.1.trans hrun, hsame.2.trans heff⟩

include hκ in
theorem shows_block (hw : w.Settled) :
    Keeps Shows ((block b).step config) w ∧ (((block b).step config).runIn w).2.Settled := by
  rw [Keeps]
  rcases block_cases config b hw.backlog with
    ⟨-, hrun, heff⟩ | ⟨hlt, ⟨-, hrun, heff⟩ | ⟨-, hrun, heff⟩⟩
  · rw [hrun, heff]
    exact ⟨Shows.composable.nil w, hw⟩
  · obtain ⟨hc, -, hcs⟩ := shows_counting hκ config b hw hlt
    rw [hrun, heff]
    exact ⟨hc, hcs⟩
  · obtain ⟨hc, hch, hcs⟩ := shows_counting hκ config b hw hlt
    have hv := acts_counted config b w
    have hl := acts_late hκ config b hw.backlog
    have hls : Shows (counted config b w) ((drain config).effects (counted config b w))
        ((drain config).runIn (counted config b w)).2 := ⟨hl.shows.deeds, hl.store, hl.outbox⟩
    have hvb : (counted config b w).store.Below b.height := by
      rw [hv.store]
      refine hv.deeds.keeps_below ?_ (hch ▸ hcs.below)
      rintro op height limit ⟨⟩
      exact Nat.le_refl _
    rw [hrun, heff]
    refine ⟨Shows.composable.append hc (Shows.composable.append hv.shows hls), hl.backlog_eq, ?_⟩
    rw [hl.store, hl.height]
    refine hl.deeds.keeps_below ?_ ?_
    · rintro op height limit ⟨job, -, hd⟩
      exact absurd hd Job.Does.not_observe
    · show (counted config b w).store.Below (counted config b w).lastHeight
      rwa [hv.height, hch]

theorem shows_step (hκ : Chain.Faithful κ) (a : Action κ) (hw : w.Settled) :
    Keeps Shows (a.step config) w ∧ ((a.step config).runIn w).2.Settled := by
  by_cases ha : ∃ b, a = .block b
  · obtain ⟨b, rfl⟩ := ha
    exact shows_block hκ config b hw
  · have h := acts_step hκ config (fun b hb => ha ⟨b, hb⟩) hw.backlog
    refine ⟨h.shows, h.backlog_eq.trans hw.backlog, ?_⟩
    rw [h.store, h.height]
    exact h.deeds.keeps_below (fun op height limit hd => absurd hd Does.not_observe) hw.below

theorem succeeds_step (a : Action κ) : Succeeds (a.step config) := (succeeds_attempt _).map _

end Action

/-! ## Runs -/

namespace Engine

variable {κ : Type} [Chain κ] (config : TrackerConfig) (chain : κ)

/-- Actions one after another. -/
def run (actions : List (Action κ)) : Work κ Memory Unit := actions.forM (·.step config)

/-- The world after actions on an empty store. -/
def reached (actions : List (Action κ)) : World κ Memory :=
  ((run config actions).runIn (.start config chain .empty)).2

/-- The effects of actions on an empty store. -/
def trace (actions : List (Action κ)) : List (Effect Memory) :=
  (run config actions).effects (.start config chain .empty)

theorem succeeds_run (actions : List (Action κ)) : Succeeds (run config actions) :=
  succeeds_forM fun a => a.succeeds_step config

theorem run_append (actions later : List (Action κ)) :
    run config (actions ++ later) = (do run config actions; run config later) :=
  List.forM_append

/-- What happens later starts in the world that was reached. -/
theorem reached_append (actions later : List (Action κ)) :
    reached config chain (actions ++ later) =
        ((run config later).runIn (reached config chain actions)).2 ∧
      trace config chain (actions ++ later) =
        trace config chain actions ++
          (run config later).effects (reached config chain actions) := by
  obtain ⟨u, hu⟩ := succeeds_run config actions (.start config chain .empty)
  have hr : (run config actions).runIn (.start config chain .empty) =
      (.ok u, reached config chain actions) := by
    rw [← hu]
    rfl
  constructor
  · rw [reached, run_append, runIn_bind, hr]
  · rw [trace, run_append, effects_bind, hr]
    rfl

theorem reached_step (actions : List (Action κ)) (a : Action κ) :
    reached config chain (actions ++ [a]) =
        ((a.step config).runIn (reached config chain actions)).2 ∧
      trace config chain (actions ++ [a]) =
        trace config chain actions ++ (a.step config).effects (reached config chain actions) := by
  obtain ⟨hr, ht⟩ := reached_append config chain actions [a]
  have h : run config [a] = a.step config := by simp [run]
  rw [hr, ht, h]
  exact ⟨rfl, rfl⟩

omit [Chain κ] in
theorem settled_start : (World.start config chain Memory.empty).Settled where
  backlog := rfl
  below := by
    intro operator sub hs
    cases hs

/-- The invariant of runs. -/
theorem shows_run (hκ : Chain.Faithful κ) (actions : List (Action κ)) {w : World κ Memory}
    (hw : w.Settled) :
    Keeps Shows (run config actions) w ∧ ((run config actions).runIn w).2.Settled := by
  have hR : Composable fun (w : World κ Memory) es w' => w.Settled → Shows w es w' ∧ w'.Settled := {
    nil := fun w hw => ⟨Shows.composable.nil w, hw⟩
    append := fun h₁ h₂ hw =>
      have ⟨hs₁, hw₁⟩ := h₁ hw
      have ⟨hs₂, hw₂⟩ := h₂ hw₁
      ⟨Shows.composable.append hs₁ hs₂, hw₂⟩ }
  exact keeps_forM hR (fun _ => True) (fun a _ _ _ => ⟨a.shows_step config hκ, trivial⟩) trivial hw

theorem shows_reached (hκ : Chain.Faithful κ) (actions : List (Action κ)) :
    Shows (.start config chain .empty) (trace config chain actions) (reached config chain actions) ∧
      (reached config chain actions).Settled :=
  shows_run config hκ actions (settled_start config chain)

end Engine

end Liveness
