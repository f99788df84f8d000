import Mathlib.Data.List.Infix
import Liveness.Proofs.Jailing
import Liveness.Proofs.Quiet

/-!
# Replays and restarts

An engine remembers the latest height only while it runs, but histories are kept in the store and
reach up to it. So an engine that was started anew takes old blocks again, in any order, and all
that it observes is stale; from the first new block on it does what the old one would have done.
-/

namespace Liveness

open Work

/-! ## Histories that reach up to a height -/

namespace Subscription

variable {config : TrackerConfig} {b : Block} {window : Float} {sub : Subscription}
  {r : ValidatorRecord}

/-- The history reaches up to a height. -/
def Reaches (height : Nat) (sub : Subscription) : Prop :=
  ∃ e ∈ sub.tracking.history.newest?, height ≤ e.height

/-- After a block the history reaches up to it. -/
theorem reaches_seen (hl : 1 ≤ config.historyWindow) :
    (sub.seen config b window (some r)).Reaches b.height := by
  have hh : (sub.seen config b window (some r)).tracking.history =
      if sub.tracking.history.accepts ⟨b.height, b.signedBy r.consensus⟩ then
        ⟨History.keepLast config.historyWindow
          (sub.tracking.history.entries ++ [⟨b.height, b.signedBy r.consensus⟩])⟩
      else sub.tracking.history := Tracking.history_observe
  rw [Reaches, hh]
  split
  · exact ⟨_, History.getLast?_keepLast hl _ _, Nat.le_refl _⟩
  · rename_i ha
    by_contra hn
    refine ha (History.accepts_iff.mpr fun last hlast => ?_)
    by_contra hle
    exact hn ⟨last, hlast, Nat.not_lt.mp hle⟩

/-- A block that the history reaches shows nothing new. -/
theorem seen_of_reaches {height : Nat} (h : sub.Reaches height) (hle : b.height ≤ height) :
    sub.seen config b window (some r) = sub ∧ sub.alert? config b window (some r) = none := by
  obtain ⟨e, he, hreach⟩ := h
  have ha : sub.tracking.history.accepts ⟨b.height, b.signedBy r.consensus⟩ = false := by
    by_contra hn
    have hlt := History.accepts_iff.mp (by simpa using hn) e he
    simp only at hlt
    omega
  have hobs : sub.observed config b window r = (sub.tracking, .stale) :=
    Tracking.observeBy_of_not_accepts ha
  constructor
  · simp [seen, hobs]
  · simp [alert?, hobs]

end Subscription

namespace Memory

variable {config : TrackerConfig} {b : Block} {window : Float} {s s' : Memory} {height : Nat}

/-- The histories of the tracked validators with a record reach up to a height. -/
def UpTo (config : TrackerConfig) (height : Nat) (s : Memory) : Prop :=
  ∀ sub ∈ s.subscriptions, Engine.isTracked config sub = true →
    s.validator? sub.operator ≠ none → height = 0 ∨ sub.Reaches height

theorem upTo_zero : s.UpTo config 0 := fun _ _ _ _ => Or.inl rfl

/-- After a block all histories reach up to it. -/
theorem upTo_seen (hl : 1 ≤ config.historyWindow)
    (hs : s'.subscriptions = s.seen config b window) (hv : s'.validators = s.validators) :
    s'.UpTo config b.height := by
  intro sub' hsub' ht hr
  rw [hs, seen] at hsub'
  obtain ⟨sub, -, rfl⟩ := List.mem_map.mp hsub'
  by_cases htracked : Engine.isTracked config sub = true
  · rw [if_pos htracked] at hr ⊢
    rw [Subscription.operator_seen, validator?_congr hv] at hr
    obtain ⟨r, hr⟩ := Option.ne_none_iff_exists'.mp hr
    rw [hr]
    exact Or.inr (Subscription.reaches_seen hl)
  · rw [if_neg htracked] at ht
    exact absurd ht htracked

/-- A block that all histories reach changes no subscription and calls for no alert. -/
theorem UpTo.replay (h : s.UpTo config height) (window : Float) (hpos : 0 < b.height)
    (hle : b.height ≤ height) :
    s.seen config b window = s.subscriptions ∧ s.alerts config b window = [] := by
  have hstale : ∀ sub ∈ s.subscriptions, Engine.isTracked config sub = true →
      sub.seen config b window (s.validator? sub.operator) = sub ∧
        sub.alert? config b window (s.validator? sub.operator) = none := by
    intro sub hsub ht
    cases hr : s.validator? sub.operator with
    | none => exact ⟨rfl, rfl⟩
    | some r =>
      have hreach := (h sub hsub ht (by simp [hr])).resolve_left (by omega)
      exact Subscription.seen_of_reaches hreach hle
  constructor
  · rw [seen]
    refine (List.map_congr_left fun sub hsub => ?_).trans (List.map_id _)
    by_cases ht : Engine.isTracked config sub = true
    · rw [if_pos ht, (hstale sub hsub ht).1]
      rfl
    · rw [if_neg ht]
      rfl
  · rw [alerts]
    refine List.filterMap_eq_nil_iff.mpr fun sub hsub => ?_
    obtain ⟨hin, ht⟩ := List.mem_filter.mp hsub
    exact (hstale sub hin ht).2

variable (config b window) in
/-- What a block shows depends on subscriptions and records. -/
theorem seen_congr (hs : s'.subscriptions = s.subscriptions) (hv : s'.validators = s.validators) :
    s'.seen config b window = s.seen config b window ∧
      s'.alerts config b window = s.alerts config b window := by
  simp only [seen, alerts, validator?, hs, hv]
  exact ⟨trivial, trivial⟩

end Memory

/-! ## Runs of blocks -/

namespace Engine

variable {κ : Type} [Chain κ] (config : TrackerConfig)

/-- Blocks one after another, each with all the work that it puts off. -/
def handleAll (bs : List Block) : Work κ Memory Unit := run config (bs.map .block)

/-- While the blocks are handled the records and the slashing window stay what they are. -/
def Steady (w : World κ Memory) (bs : List Block) : Prop :=
  ∀ pre, pre <+: bs →
    ((handleAll config pre).runIn w).2.store.validators = w.store.validators ∧
      ((handleAll config pre).runIn w).2.window = w.window

theorem runIn_handleAll_append (A B : List Block) (w : World κ Memory) :
    ((handleAll config (A ++ B)).runIn w).2 =
        ((handleAll config B).runIn ((handleAll config A).runIn w).2).2 ∧
      (handleAll config (A ++ B)).effects w = (handleAll config A).effects w ++
        (handleAll config B).effects ((handleAll config A).runIn w).2 := by
  obtain ⟨o, ho⟩ := succeeds_run config (A.map .block) w
  have hr : (run config (A.map .block)).runIn w =
      (.ok o, ((handleAll config A).runIn w).2) := by
    rw [← ho]
    rfl
  constructor
  · rw [handleAll, List.map_append, run_append, runIn_bind, hr]
    rfl
  · rw [handleAll, List.map_append, run_append, effects_bind, hr]
    rfl

theorem runIn_handleAll_singleton (b : Block) (w : World κ Memory) :
    ((handleAll config [b]).runIn w).2 = (((Action.block b).step config).runIn w).2 ∧
      (handleAll config [b]).effects w = ((Action.block b).step config).effects w := by
  obtain ⟨o, ho⟩ := Action.succeeds_step config (.block b) w
  have hr : ((Action.block b).step config).runIn w =
      (.ok o, (((Action.block b).step config).runIn w).2) := by
    rw [← ho]
  constructor
  · show ((((Action.block b).step config) >>= fun _ => pure ()).runIn w).2 = _
    rw [runIn_bind, hr]
    rfl
  · show (((Action.block b).step config) >>= fun _ => pure ()).effects w = _
    rw [effects_bind, hr]
    exact List.append_nil _

theorem runIn_handleAll_cons (b : Block) (bs : List Block) (w : World κ Memory) :
    ((handleAll config (b :: bs)).runIn w).2 =
        ((handleAll config bs).runIn (((Action.block b).step config).runIn w).2).2 ∧
      (handleAll config (b :: bs)).effects w = ((Action.block b).step config).effects w ++
        (handleAll config bs).effects (((Action.block b).step config).runIn w).2 := by
  obtain ⟨hrun, heff⟩ := runIn_handleAll_append config [b] bs w
  obtain ⟨hrun1, heff1⟩ := runIn_handleAll_singleton config b w
  rw [hrun1] at hrun
  rw [hrun1, heff1] at heff
  exact ⟨hrun, heff⟩

variable {config} {w v u x : World κ Memory} {b : Block} {bs A B R : List Block}

theorem Steady.append (h : Steady config w (A ++ B)) :
    Steady config w A ∧ Steady config ((handleAll config A).runIn w).2 B := by
  refine ⟨fun pre hp => h pre (hp.trans (List.prefix_append A B)), fun pre hp => ?_⟩
  have hA := h A (List.prefix_append A B)
  have hpre := h (A ++ pre) ((List.prefix_append_right_inj A).mpr hp)
  rw [(runIn_handleAll_append config A pre w).1] at hpre
  exact ⟨hpre.1.trans hA.1.symm, hpre.2.trans hA.2.symm⟩

theorem Steady.cons (h : Steady config w (b :: bs)) :
    (((Action.block b).step config).runIn w).2.store.validators = w.store.validators ∧
      (((Action.block b).step config).runIn w).2.window = w.window ∧
      Steady config (((Action.block b).step config).runIn w).2 bs := by
  have hone := h [b] (List.prefix_append [b] bs)
  have hrest := (Steady.append (A := [b]) h).2
  rw [(runIn_handleAll_singleton config b w).1] at hone hrest
  exact ⟨hone.1, hone.2, hrest⟩

variable (config) in
/-- Every block is refused or calm, nothing is left to do before it, and it leaves the records as
they are. -/
def Undisturbed : World κ Memory → List Block → Prop
  | _, [] => True
  | w, b :: bs =>
    (w.backlog = [] ∧ (b.height ≤ w.lastHeight ∨ Calm config b w) ∧
      (((Action.block b).step config).runIn w).2.store.validators = w.store.validators) ∧
    Undisturbed (((Action.block b).step config).runIn w).2 bs

instance decidableUndisturbed :
    ∀ (w : World κ Memory) (bs : List Block), Decidable (Undisturbed config w bs)
  | _, [] => isTrue trivial
  | w, b :: bs =>
    have := decidableUndisturbed (((Action.block b).step config).runIn w).2 bs
    inferInstanceAs (Decidable ((_ ∧ _ ∧ _) ∧ _))

theorem Undisturbed.steady (h : Undisturbed config w bs) : Steady config w bs := by
  induction bs generalizing w with
  | nil =>
    intro pre hp
    obtain rfl := List.prefix_nil.mp hp
    exact ⟨rfl, rfl⟩
  | cons b bs ih =>
    obtain ⟨⟨hb, hcalm, hvals⟩, hbs⟩ := h
    have hwindow : (((Action.block b).step config).runIn w).2.window = w.window := by
      rcases hcalm with hle | hcalm
      · rcases Action.block_cases config b hb with ⟨-, hrun, -⟩ | ⟨hlt, -⟩
        · rw [hrun]
        · exact absurd hlt (Nat.not_lt.mpr hle)
      · exact hcalm.window hb
    intro pre hp
    rcases List.prefix_cons_iff.mp hp with rfl | ⟨rest, rfl, hrest⟩
    · exact ⟨rfl, rfl⟩
    · obtain ⟨hv, hw⟩ := ih hbs rest hrest
      rw [(runIn_handleAll_cons config b rest w).1]
      exact ⟨hv.trans hvals, hw.trans hwindow⟩

/-- Nothing is left to do and the subscriptions are in order. -/
structure Rests (w : World κ Memory) : Prop where
  backlog : w.backlog = []
  sorted : Rows.Sorted Subscription.operator w.store.subscriptions

/-- A block without transactions is refused, or the tracked validators see it. -/
theorem block_of_steady (hw : Rests w) (htxs : b.txs = 0)
    (hwindow : (((Action.block b).step config).runIn w).2.window = w.window) :
    let w' := (((Action.block b).step config).runIn w).2
    let alerts := (((Action.block b).step config).effects w).filterMap Effect.alert?
    (b.height ≤ w.lastHeight ∧ w' = w ∧ alerts = []) ∨
      (w.lastHeight < b.height ∧ Rests w' ∧ w'.lastHeight = b.height ∧
        w'.store.subscriptions = w.store.seen config b w.window ∧
        alerts = w.store.alerts config b w.window) := by
  intro w' alerts
  rcases Nat.lt_or_ge w.lastHeight b.height with hlt | hle
  · obtain ⟨hs, ha, hheight, hb⟩ := block_of_no_txs config hw.backlog hw.sorted hlt htxs
    rw [hwindow] at hs ha
    refine Or.inr ⟨hlt, ⟨hb, ?_⟩, hheight, hs, ha⟩
    show Rows.Sorted _ (((Action.block b).step config).runIn w).2.store.subscriptions
    rw [hs]
    refine Rows.sorted_map (fun sub => ?_) hw.sorted
    split
    · exact Subscription.operator_seen sub
    · rfl
  · rcases Action.block_cases config b hw.backlog with ⟨-, hrun, heff⟩ | ⟨hlt, -⟩
    · refine Or.inl ⟨hle, hrun, ?_⟩
      show (((Action.block b).step config).effects w).filterMap Effect.alert? = []
      rw [heff]
      rfl
    · exact absurd hlt (Nat.not_lt.mpr hle)

/-- The first engine: in the end all histories reach up to its latest height, which is that of one
of the blocks if it took any. -/
theorem upTo_handleAll (hl : 1 ≤ config.historyWindow) (hw : Rests w)
    (hup : w.store.UpTo config w.lastHeight) (htxs : ∀ b ∈ A, b.txs = 0)
    (hsteady : Steady config w A) :
    let w' := ((handleAll config A).runIn w).2
    Rests w' ∧ w'.store.UpTo config w'.lastHeight ∧ (∀ b ∈ A, b.height ≤ w'.lastHeight) ∧
      w.lastHeight ≤ w'.lastHeight ∧
      (w'.lastHeight = w.lastHeight ∨ ∃ b ∈ A, w'.lastHeight = b.height) := by
  induction A generalizing w with
  | nil => exact ⟨hw, hup, by simp, Nat.le_refl _, Or.inl rfl⟩
  | cons b A ih =>
    obtain ⟨hvals, hwindow, hrest⟩ := hsteady.cons
    intro w'
    have htxs' : ∀ b ∈ A, b.txs = 0 := fun b hb => htxs b (List.mem_cons_of_mem _ hb)
    have hrun : w' = ((handleAll config A).runIn (((Action.block b).step config).runIn w).2).2 :=
      (runIn_handleAll_cons config b A w).1
    rcases block_of_steady hw (htxs b List.mem_cons_self) hwindow with
      ⟨hle, hsame, -⟩ | ⟨hlt, hw₁, hheight, hsubs, -⟩
    · rw [hsame] at hrun hrest
      obtain ⟨hres, hup', hall, hge, hlast⟩ := ih hw hup htxs' hrest
      rw [← hrun] at hres hup' hall hge hlast
      have hall' : ∀ b' ∈ b :: A, b'.height ≤ w'.lastHeight :=
        List.forall_mem_cons.mpr ⟨Nat.le_trans hle hge, hall⟩
      refine ⟨hres, hup', hall', hge, hlast.imp_right ?_⟩
      rintro ⟨b', hb', h⟩
      exact ⟨b', List.mem_cons_of_mem _ hb', h⟩
    · have hup₁ : (((Action.block b).step config).runIn w).2.store.UpTo config
          (((Action.block b).step config).runIn w).2.lastHeight := by
        rw [hheight]
        exact Memory.upTo_seen hl hsubs hvals
      obtain ⟨hres, hup', hall, hge, hlast⟩ := ih hw₁ hup₁ htxs' hrest
      rw [← hrun, hheight] at hge hlast
      rw [← hrun] at hres hup' hall
      have hall' : ∀ b' ∈ b :: A, b'.height ≤ w'.lastHeight :=
        List.forall_mem_cons.mpr ⟨hge, hall⟩
      refine ⟨hres, hup', hall', by omega, Or.inr ?_⟩
      rcases hlast with h | ⟨b', hb', h⟩
      · exact ⟨b, List.mem_cons_self, h⟩
      · exact ⟨b', List.mem_cons_of_mem _ hb', h⟩

/-- The second engine, while it takes old blocks again: nothing changes and nobody is alerted. -/
theorem replay_handleAll {height : Nat} (hv : Rests v) (hup : v.store.UpTo config height)
    (hlast : v.lastHeight ≤ height) (hR : ∀ b ∈ R, b.txs = 0 ∧ b.height ≤ height)
    (hsteady : Steady config v R) :
    let v' := ((handleAll config R).runIn v).2
    Rests v' ∧ v'.store.subscriptions = v.store.subscriptions ∧ v'.lastHeight ≤ height ∧
      ((handleAll config R).effects v).filterMap Effect.alert? = [] := by
  induction R generalizing v with
  | nil => exact ⟨hv, rfl, hlast, rfl⟩
  | cons b R ih =>
    obtain ⟨hvals, hwindow, hrest⟩ := hsteady.cons
    obtain ⟨htxs, hle⟩ := hR b List.mem_cons_self
    have hR' : ∀ b ∈ R, b.txs = 0 ∧ b.height ≤ height :=
      fun b hb => hR b (List.mem_cons_of_mem _ hb)
    intro v'
    obtain ⟨hrun, heff⟩ := runIn_handleAll_cons config b R v
    rcases block_of_steady hv htxs hwindow with
      ⟨-, hsame, halerts⟩ | ⟨hlt, hv₁, hheight, hsubs, halerts⟩
    · rw [hsame] at hrun heff hrest
      obtain ⟨hres, hsubs', hlast', hsilent⟩ := ih hv hup hlast hR' hrest
      rw [← hrun] at hres hsubs' hlast'
      refine ⟨hres, hsubs', hlast', ?_⟩
      rw [heff, List.filterMap_append, halerts, hsilent, List.nil_append]
    · -- the engine takes the block, and all that it observes is stale
      obtain ⟨hseen, hnone⟩ := hup.replay v.window (by omega) hle
      have hup₁ : (((Action.block b).step config).runIn v).2.store.UpTo config height := by
        intro sub hsub ht hr
        rw [hsubs, hseen] at hsub
        rw [Memory.validator?_congr hvals] at hr
        exact hup sub hsub ht hr
      obtain ⟨hres, hsubs', hlast', hsilent⟩ := ih hv₁ hup₁ (hheight ▸ hle) hR' hrest
      rw [← hrun] at hres hsubs' hlast'
      refine ⟨hres, hsubs'.trans (hsubs.trans hseen), hlast', ?_⟩
      rw [heff, List.filterMap_append, halerts, hnone, hsilent, List.nil_append]

/-- Two engines over the same subscriptions and records, of which the second one may lag behind but
not beyond the new blocks. -/
structure Alongside (B : List Block) (u x : World κ Memory) : Prop where
  subscriptions : x.store.subscriptions = u.store.subscriptions
  validators : x.store.validators = u.store.validators
  window : x.window = u.window
  height : x.lastHeight = u.lastHeight ∨
    (x.lastHeight ≤ u.lastHeight ∧ ∀ b ∈ B, u.lastHeight < b.height)

/-- They do the same from then on. -/
theorem Alongside.handleAll (h : Alongside B u x) (hu : Rests u) (hx : Rests x)
    (htxs : ∀ b ∈ B, b.txs = 0) (hsu : Steady config u B) (hsx : Steady config x B) :
    ((Engine.handleAll config B).runIn x).2.store.subscriptions =
        ((Engine.handleAll config B).runIn u).2.store.subscriptions ∧
      ((Engine.handleAll config B).effects x).filterMap Effect.alert? =
        ((Engine.handleAll config B).effects u).filterMap Effect.alert? := by
  induction B generalizing u x with
  | nil => exact ⟨h.subscriptions, rfl⟩
  | cons b B ih =>
    obtain ⟨hvu, hwu, hru⟩ := hsu.cons
    obtain ⟨hvx, hwx, hrx⟩ := hsx.cons
    have htxs' : ∀ b ∈ B, b.txs = 0 := fun b hb => htxs b (List.mem_cons_of_mem _ hb)
    -- either both engines take the block or none does
    have hheights : b.height ≤ x.lastHeight ↔ b.height ≤ u.lastHeight := by
      rcases h.height with heq | ⟨hle, hnew⟩
      · rw [heq]
      · have hlt := hnew b List.mem_cons_self
        omega
    obtain ⟨hrunu, heffu⟩ := runIn_handleAll_cons config b B u
    obtain ⟨hrunx, heffx⟩ := runIn_handleAll_cons config b B x
    rw [hrunu, hrunx, heffu, heffx, List.filterMap_append, List.filterMap_append]
    have hb := htxs b List.mem_cons_self
    rcases block_of_steady hu hb hwu with ⟨hleu, hsameu, hau⟩ | ⟨hltu, hu', hhu, hsubu, hau⟩
    · rcases block_of_steady hx hb hwx with ⟨-, hsamex, hax⟩ | ⟨hltx, -⟩
      · rw [hsameu] at hru ⊢
        rw [hsamex] at hrx ⊢
        have hnext : Alongside B u x := by
          refine ⟨h.subscriptions, h.validators, h.window, h.height.imp_right fun hh => ?_⟩
          exact ⟨hh.1, fun b' hb' => hh.2 b' (List.mem_cons_of_mem _ hb')⟩
        obtain ⟨hs, ha⟩ := ih hnext hu hx htxs' hru hrx
        exact ⟨hs, by rw [hau, hax, ha]⟩
      · omega
    · rcases block_of_steady hx hb hwx with ⟨hlex, -, -⟩ | ⟨-, hx', hhx, hsubx, hax⟩
      · omega
      · obtain ⟨hseen, halerts⟩ := Memory.seen_congr config b u.window
          h.subscriptions h.validators
        rw [h.window, hseen] at hsubx
        rw [h.window, halerts] at hax
        have hnext : Alongside B (((Action.block b).step config).runIn u).2
            (((Action.block b).step config).runIn x).2 :=
          ⟨hsubx.trans hsubu.symm, hvx.trans (h.validators.trans hvu.symm),
            hwx.trans (h.window.trans hwu.symm), Or.inl (hhx.trans hhu.symm)⟩
        obtain ⟨hs, ha⟩ := ih hnext hu' hx' htxs' hru hrx
        exact ⟨hs, by rw [hau, hax, ha]⟩

/-! ## Restarts -/

/-- Blocks that an engine has seen are not counted again. A block that is not newer than the latest
one does nothing. If an engine has taken the blocks `A`, and a new one on its store is given some of
them again in any order and then newer blocks `B`, then the subscriptions and the alerts come out as
if the first engine had gone on with `B`. -/
theorem restart_invisible (config : TrackerConfig) :
    (∀ (w : World κ Memory) (b : Block), b.height ≤ w.lastHeight →
      (handleBlock config b).runIn w = (.ok .zero, w) ∧ (handleBlock config b).effects w = []) ∧
    ∀ (w v : World κ Memory) (A R B : List Block), 1 ≤ config.historyWindow →
      Rests w → w.lastHeight = 0 →
      Rests v → v.lastHeight = 0 → v.window = w.window →
      v.store = ((handleAll config A).runIn w).2.store →
      (∀ b ∈ A ++ B, b.txs = 0) → R ⊆ A → (∀ a ∈ A, ∀ b ∈ B, a.height < b.height) →
      Steady config w (A ++ B) → Steady config v (R ++ B) →
      ((handleAll config (R ++ B)).runIn v).2.store.subscriptions =
          ((handleAll config (A ++ B)).runIn w).2.store.subscriptions ∧
        ((handleAll config (A ++ B)).effects w).filterMap Effect.alert? =
          ((handleAll config A).effects w).filterMap Effect.alert? ++
            ((handleAll config (R ++ B)).effects v).filterMap Effect.alert? := by
  refine ⟨fun w b hle => handleBlock_of_le config b hle, ?_⟩
  intro w v A R B hl hw hw0 hv hv0 hwindow hstore htxs hR hnew hsw hsv
  obtain ⟨hswA, hswB⟩ := hsw.append
  obtain ⟨hsvR, hsvB⟩ := hsv.append
  have htxsA : ∀ b ∈ A, b.txs = 0 := fun b hb => htxs b (List.mem_append_left B hb)
  have htxsB : ∀ b ∈ B, b.txs = 0 := fun b hb => htxs b (List.mem_append_right A hb)
  have hup₀ : w.store.UpTo config w.lastHeight := by
    rw [hw0]
    exact Memory.upTo_zero
  obtain ⟨hu, hup, hall, -, hlast⟩ := upTo_handleAll hl hw hup₀ htxsA hswA
  have hvup : v.store.UpTo config ((handleAll config A).runIn w).2.lastHeight := by rwa [hstore]
  have hold : ∀ b ∈ R, b.txs = 0 ∧ b.height ≤ ((handleAll config A).runIn w).2.lastHeight :=
    fun b hb => ⟨htxsA b (hR hb), hall b (hR hb)⟩
  obtain ⟨hx, hsubs, hle, hsilent⟩ :=
    replay_handleAll hv hvup (by rw [hv0]; exact Nat.zero_le _) hold hsvR
  have hvals := (hsvR R (List.prefix_refl R)).1
  have hwin := (hsvR R (List.prefix_refl R)).2
  have halong : Alongside B ((handleAll config A).runIn w).2 ((handleAll config R).runIn v).2 := by
    refine ⟨hsubs.trans (congrArg _ hstore), hvals.trans (congrArg _ hstore),
      hwin.trans (hwindow.trans (hswA A (List.prefix_refl A)).2.symm), ?_⟩
    -- without a block in `A` neither engine has taken one
    rcases hlast with hzero | ⟨a, ha, hheight⟩
    · exact Or.inl (by omega)
    · exact Or.inr ⟨hle, fun b hb => hheight ▸ hnew a ha b hb⟩
  obtain ⟨hfinal, halerts⟩ := halong.handleAll hu hx htxsB hswB hsvB
  obtain ⟨hrunw, heffw⟩ := runIn_handleAll_append config A B w
  obtain ⟨hrunv, heffv⟩ := runIn_handleAll_append config R B v
  rw [hrunw, hrunv, heffw, heffv, List.filterMap_append, List.filterMap_append, hsilent, halerts]
  exact ⟨hfinal, rfl⟩

/-- A validator votes for two blocks, the engine is started anew, takes the two again in the wrong
order, and goes on. -/
theorem restart_invisible_of_votes :
    let block (height : Nat) : Block :=
      ⟨height, "", 0, [⟨"72CD6E8422C407FB6D098690F1130B7DED7EC2F7", true⟩]⟩
    let w := World.start .standard (Alpha.chain false) (reachedBy .standard Scripted.empty
      [.act (.turn (Alpha.chain false)), .act (.subscribe Alpha.operator "chat-1")]).store
    let v := World.start .standard (Alpha.chain false)
      ((handleAll .standard [block 8, block 9]).runIn w).2.store
    (handleBlock .standard (block 0)).runIn w = (.ok .zero, w) ∧
      ((handleAll .standard [block 9, block 8, block 10]).runIn v).2.store.subscriptions =
        [⟨Alpha.operator, ⟨0, 1, 0, ⟨[⟨8, true⟩, ⟨9, true⟩, ⟨10, true⟩]⟩⟩, ["chat-1"]⟩] := by
  intro block w v
  have hone : ∀ sub : Subscription, Rows.Sorted Subscription.operator [sub] :=
    fun sub => List.pairwise_singleton _ sub
  obtain ⟨hsub, hsub', hlast, hsw, hsv⟩ :
      w.store.subscriptions = [⟨Alpha.operator, .fresh, ["chat-1"]⟩] ∧
      v.store.subscriptions =
        [⟨Alpha.operator, ⟨0, 1, 0, ⟨[⟨8, true⟩, ⟨9, true⟩]⟩⟩, ["chat-1"]⟩] ∧
      ((handleAll .standard [block 8, block 9, block 10]).runIn w).2.store.subscriptions =
        [⟨Alpha.operator, ⟨0, 1, 0, ⟨[⟨8, true⟩, ⟨9, true⟩, ⟨10, true⟩]⟩⟩, ["chat-1"]⟩] ∧
      Undisturbed .standard w [block 8, block 9, block 10] ∧
      Undisturbed .standard v [block 9, block 8, block 10] := by
    decide +kernel
  have hw0 : w.lastHeight = 0 := by simp only [w, World.start]
  have hv0 : v.lastHeight = 0 := by simp only [v, World.start]
  have hwindow : v.window = w.window := by simp only [v, w, World.start]
  have hstore : v.store = ((handleAll .standard [block 8, block 9]).runIn w).2.store := by
    simp only [v, World.start]
  have hrw : Rests w := ⟨rfl, by rw [hsub]; exact hone _⟩
  have hrv : Rests v := ⟨rfl, by rw [hsub']; exact hone _⟩
  obtain ⟨hrefused, hrestart⟩ := restart_invisible (κ := Scripted) .standard
  have hresumed := hrestart w v [block 8, block 9] [block 9, block 8] [block 10] (by decide) hrw hw0
    hrv hv0 hwindow hstore (by decide) (by decide) (by decide) hsw.steady hsv.steady
  obtain ⟨hsubs, -⟩ := hresumed
  simp only [List.cons_append, List.nil_append] at hsubs
  have hzero : (block 0).height ≤ w.lastHeight := by rw [hw0]
  exact ⟨(hrefused w (block 0) hzero).1, hsubs.trans hlast⟩

end Engine

end Liveness
