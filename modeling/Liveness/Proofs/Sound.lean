import Mathlib.Data.List.Chain
import Mathlib.Data.List.Infix
import Liveness.Proofs.Jailing
import Liveness.Proofs.Keys
import Liveness.Proofs.Streak
import Liveness.Proofs.Tidy
import Liveness.Proofs.Tiers

/-!
# What the store of a run looks like

In every run, whatever the chain answers, histories are in order and within their bound, streaks
agree with the newest entries of the history, nobody follows a validator twice, and records carry
the addresses that belong to their operator.
-/

namespace Liveness

open Work

/-! ## Rows of misses -/

namespace History

/-- Misses at consecutive heights. -/
structure IsRow (l : List Attendance) : Prop where
  missed : ∀ e ∈ l, e.found = false
  consecutive : l.IsChain fun a b => b.height = a.height + 1

variable {l l' : List Attendance} {e : Attendance} {limit k : Nat}

theorem IsRow.suffix (h : IsRow l) (hs : l' <:+ l) : IsRow l' where
  missed := fun e he => h.missed e (hs.subset he)
  consecutive := h.consecutive.suffix hs

theorem isRow_singleton (he : e.found = false) : IsRow [e] where
  missed := List.forall_mem_singleton.mpr he
  consecutive := List.isChain_singleton e

/-- A row goes on with a miss at the next height. -/
theorem IsRow.concat (h : IsRow l) (he : e.found = false)
    (hnext : ∀ a ∈ l.getLast?, e.height = a.height + 1) : IsRow (l ++ [e]) where
  missed := by
    intro a ha
    rcases List.mem_append.mp ha with ha | ha
    · exact h.missed a ha
    · rw [List.mem_singleton.mp ha]
      exact he
  consecutive := by
    refine List.isChain_append.mpr ⟨h.consecutive, List.isChain_singleton e, ?_⟩
    intro a ha b hb
    obtain rfl : e = b := by simpa using hb
    exact hnext a ha

end History

/-! ## Trackings -/

/-- What holds of a tracking after the block at `lastHeight`. -/
structure Tracking.Sound (limit lastHeight : Nat) (t : Tracking) : Prop where
  /-- The history is in order. -/
  ascending : t.history.entries.Pairwise (·.height < ·.height)
  /-- It is within its bound. -/
  bounded : t.history.size ≤ limit
  /-- It does not reach beyond the latest block. -/
  reached : ∀ e ∈ t.history.newest?, e.height ≤ lastHeight
  /-- There is an alert level. -/
  level : 1 ≤ t.level
  /-- Without a streak it is the lowest. -/
  calm : t.counter = 0 → t.level = 1
  /-- The newest miss is in the reach of the history. -/
  missed : t.lastMissed = 0 ∨ ∃ e ∈ t.history.newest?, t.lastMissed ≤ e.height
  /-- A streak that reaches up to the newest entry is a row in the history, as far as that goes. -/
  streak : 0 < t.counter → t.history.newest?.map (·.height) = some t.lastMissed →
    History.IsRow (History.keepLast t.counter t.history.entries)

namespace Tracking

variable {t : Tracking} {limit lastHeight height : Nat} {history : History} {found : Bool}

theorem sound_fresh : Sound limit lastHeight fresh where
  ascending := List.Pairwise.nil
  bounded := Nat.zero_le limit
  reached := by intro e he; cases he
  level := Nat.le_refl 1
  calm := fun _ => rfl
  missed := Or.inl rfl
  streak := by intro h; cases h

theorem Sound.mono {later : Nat} (h : t.Sound limit lastHeight) (hle : lastHeight ≤ later) :
    t.Sound limit later :=
  { h with reached := fun e he => Nat.le_trans (h.reached e he) hle }

theorem Sound.restart (h : t.Sound limit lastHeight) : t.restart.Sound limit lastHeight where
  ascending := h.ascending
  bounded := h.bounded
  reached := h.reached
  level := Nat.le_refl 1
  calm := fun _ => rfl
  missed := Or.inl rfl
  streak := by intro hpos; cases hpos

section Push

variable (h : t.Sound limit height) (hl : 1 ≤ limit) (hpos : 1 ≤ height)
  (hp : t.history.push? ⟨height, found⟩ limit = some history)
include h hp

omit h in
theorem size_push : history.size ≤ limit := by
  rw [History.size_push hp]
  exact Nat.min_le_left _ _

/-- The newest miss lies below the height of a new entry. -/
theorem lastMissed_lt_of_push (hpos : 1 ≤ height) : t.lastMissed < height := by
  rcases h.missed with h0 | ⟨e, he, hle⟩
  · omega
  · have hlt : e.height < height :=
      History.accepts_iff.mp (History.push?_eq_some_iff.mp hp).1 e he
    omega

include hl hpos

/-- In jail the history grows and the streak stays. -/
theorem Sound.jailed : Sound limit height { t with history := history } := by
  have hnew : history.newest? = some ⟨height, found⟩ := History.newest?_push hl hp
  have hlt : t.lastMissed < height := lastMissed_lt_of_push h hp hpos
  refine ⟨History.ascending_push h.ascending hp, size_push hp, ?_, h.level, h.calm, ?_, ?_⟩
  · intro e he
    rw [show e = ⟨height, found⟩ from Option.mem_unique he hnew]
  · exact Or.inr ⟨_, hnew, Nat.le_of_lt hlt⟩
  · intro _ hlast
    -- the newest entry is beyond the newest miss
    have heq : height = t.lastMissed := by simpa [hnew] using hlast
    omega

/-- A vote that is present ends the streak. -/
theorem Sound.attended :
    Sound limit height ({ t with history := history } : Tracking).resetStreak := by
  have hj := h.jailed hl hpos hp
  exact ⟨hj.ascending, hj.bounded, hj.reached, Nat.le_refl 1, fun _ => rfl, hj.missed,
    fun h0 => absurd h0 (Nat.lt_irrefl 0)⟩

end Push

/-- A miss directly after the newest one goes on with the row. -/
theorem Sound.isRow_concat (h : t.Sound limit height)
    (ha : t.history.accepts ⟨height, false⟩ = true) (hne : t.lastMissed ≠ 0)
    (hnext : height = t.lastMissed + 1) :
    History.IsRow (History.keepLast t.counter t.history.entries ++ [⟨height, false⟩]) := by
  obtain ⟨e, he, hle⟩ := h.missed.resolve_left hne
  have hlt : e.height < height := History.accepts_iff.mp ha e he
  -- nothing fits between the newest miss and this one, so the newest entry is that miss
  have hlast : e.height = t.lastMissed := by omega
  rcases Nat.eq_zero_or_pos t.counter with h0 | hpos
  · rw [h0, History.keepLast_zero]
    exact History.isRow_singleton rfl
  · have hrow := h.streak hpos (by rw [he, Option.map_some, hlast])
    refine hrow.concat rfl fun a hmem => ?_
    have hmem' : a ∈ t.history.newest? := by
      obtain ⟨pre, hpre⟩ := History.keepLast_suffix t.counter t.history.entries
      rw [History.newest?, ← hpre]
      exact List.mem_getLast?_append_of_mem_getLast? hmem
    rw [Option.mem_unique hmem' he, hlast]
    exact hnext

/-- A miss carries the streak on, or it starts one. -/
theorem Sound.miss (h : t.Sound limit height) (hl : 1 ≤ limit) (hpos : 1 ≤ height)
    (hp : t.history.push? ⟨height, false⟩ limit = some history) (m : Calculator) (window : Float) :
    Sound limit height (({ t with history := history } : Tracking).missBy m height window).1 := by
  have hj := h.jailed hl hpos hp
  have hnew : history.newest? = some ⟨height, false⟩ := History.newest?_push hl hp
  have hcounter := Transcript.nextCounter_eq { t with history := history } height
  refine ⟨hj.ascending, hj.bounded, hj.reached, ?_, ?_, ?_, ?_⟩
  · exact m.one_le_alertLevel _ window
  · intro h0
    have hz : ({ t with history := history } : Tracking).nextCounter height = 0 := h0
    omega
  · exact Or.inr ⟨_, hnew, Nat.le_refl height⟩
  · intro _ _
    show History.IsRow (History.keepLast
      (({ t with history := history } : Tracking).nextCounter height) history.entries)
    obtain ⟨ha, rfl⟩ := History.push?_eq_some_iff.mp hp
    rw [hcounter]
    refine History.IsRow.suffix ?_ (History.keepLast_keepLast_suffix _)
    rw [History.keepLast_succ]
    split_ifs with hc
    · exact h.isRow_concat ha hc.1 hc.2
    · -- the streak starts with this miss
      rw [History.keepLast_zero]
      exact History.isRow_singleton rfl

theorem Sound.observe (h : t.Sound limit height) (hl : 1 ≤ limit) (hpos : 1 ≤ height)
    (found jailed : Bool) (window : Float) :
    Sound limit height (t.observe height found jailed window limit).1 := by
  rw [Tracking.observe]
  by_cases ha : t.history.accepts ⟨height, found⟩ = true
  · obtain ⟨history, hp⟩ := History.exists_push ha limit
    rw [observeBy_of_push hp]
    cases jailed with
    | true => exact h.jailed hl hpos hp
    | false =>
      cases found with
      | true => exact h.attended hl hpos hp
      | false => exact h.miss hl hpos hp _ window
  · rw [observeBy_of_not_accepts (by simpa using ha)]
    exact h

end Tracking

/-! ## Records -/

/-- The addresses of a record belong to its operator: the consensus address has forty upper-case
hexadecimal digits, and the owner has the words of the operator under the account prefix. -/
structure ValidatorRecord.Sound (accountPrefix : String) (r : ValidatorRecord) : Prop where
  length : r.consensus.length = 40
  digits : ∀ c ∈ r.consensus.toList, c ∈ "0123456789ABCDEF".toList
  owner : ∃ decoded, Bech32.decode r.operator = .ok decoded ∧
    Bech32.encode accountPrefix decoded.words = .ok r.selfDelegation

/-- The records that the chain gives are sound. -/
theorem Registry.sound_of_recordOf {accountPrefix : String} {s : Snapshot} {r : ValidatorRecord}
    (h : recordOf accountPrefix s = .ok r) : r.Sound accountPrefix := by
  obtain ⟨consensus, account, hc, ha, rfl⟩ := exists_of_recordOf h
  obtain ⟨key, -, -, rfl⟩ := Address.consensus_eq_ok_iff.mp hc
  obtain ⟨hlength, hdigits⟩ := Address.ofKeyBytes_digits key
  obtain ⟨decoded, hd, he⟩ := exists_of_bind_eq_ok ha
  exact ⟨hlength, hdigits, decoded, eq_ok_of_mapError hd, eq_ok_of_mapError he⟩

/-! ## Stores -/

/-- All trackings and records of a store are sound. -/
structure Memory.Sound (config : TrackerConfig) (lastHeight : Nat) (s : Memory) : Prop where
  trackings : ∀ sub ∈ s.subscriptions, sub.tracking.Sound config.historyWindow lastHeight
  validators : ∀ r ∈ s.validators, r.Sound config.accountPrefix

namespace Memory

variable {config : TrackerConfig} {lastHeight height : Nat} {s : Memory}

theorem sound_empty : Memory.empty.Sound config lastHeight where
  trackings := by intro sub hsub; cases hsub
  validators := by intro r hr; cases hr

theorem Sound.mono (h : s.Sound config lastHeight) (hle : lastHeight ≤ height) :
    s.Sound config height where
  trackings := fun sub hsub => (h.trackings sub hsub).mono hle
  validators := h.validators

theorem Sound.putSubscription (h : s.Sound config lastHeight) {sub : Subscription}
    (hsub : sub.tracking.Sound config.historyWindow lastHeight) :
    (s.putSubscription sub).Sound config lastHeight where
  trackings := by
    intro other hother
    rcases Rows.mem_put hother with rfl | hother
    · exact hsub
    · exact h.trackings other hother
  validators := h.validators

theorem Sound.putValidator (h : s.Sound config lastHeight) {r : ValidatorRecord}
    (hr : r.Sound config.accountPrefix) : (s.putValidator r).Sound config lastHeight where
  trackings := h.trackings
  validators := by
    intro other hother
    rcases Rows.mem_put hother with rfl | hother
    · exact hr
    · exact h.validators other hother

theorem Sound.of_subscription? (h : s.Sound config lastHeight) {operator : String}
    {sub : Subscription} (hs : s.subscription? operator = some sub) :
    sub.tracking.Sound config.historyWindow lastHeight :=
  h.trackings sub (mem_of_subscription? hs)

theorem sound_upkeep : KeptBy (Upkeep config.accountPrefix) (Sound config lastHeight) := by
  intro s s' hw h
  cases hw with
  | keep block limit => exact ⟨h.trackings, h.validators⟩
  | refresh hr => exact h.putValidator (Registry.sound_of_recordOf hr)
  | jail hr =>
    have hr' := h.validators _ (Rows.mem_of_find? hr)
    exact h.putValidator ⟨hr'.length, hr'.digits, hr'.owner⟩
  | enrol hs => exact h.putSubscription Tracking.sound_fresh
  | restart hs =>
    have hsub := h.of_subscription? hs
    exact h.putSubscription hsub.restart

theorem sound_enlist : KeptBy (Enlist config.trackAll) (Sound config lastHeight) := by
  intro s s' hw h
  cases hw with
  | follow hs ht =>
    have hsub := h.of_subscription? hs
    exact h.putSubscription hsub
  | unfollow hs ht =>
    have hsub := h.of_subscription? hs
    exact h.putSubscription hsub
  | drop hs ht hl hn =>
    exact ⟨fun sub hsub => h.trackings sub (Rows.mem_of_mem_erase hsub), h.validators⟩

theorem sound_observe (hl : 1 ≤ config.historyWindow) (hpos : 1 ≤ height) :
    KeptBy (Observe config.historyWindow height) (Sound config height) := by
  intro s s' hw h
  cases hw with
  | intro found window hs hr =>
    have hsub := h.of_subscription? hs
    exact h.putSubscription (hsub.observe hl hpos found _ window)

end Memory

/-! ## Runs -/

theorem TrackerConfig.one_le_historyWindow {config : TrackerConfig}
    (h : config.validate = .ok config) : 1 ≤ config.historyWindow := by
  by_contra hn
  have h0 : config.historyWindow = 0 := by omega
  simp [validate, defect?, h0] at h

namespace Engine

/-- After every run of an engine whose settings have no defect, whatever the chain answers, all
trackings and records are sound and nobody follows a validator twice. -/
theorem sound_reachedBy {κ : Type} [Chain κ] (config : TrackerConfig)
    (hc : config.validate = .ok config) (chain : κ) (os : List (Operation κ)) :
    let w := reachedBy config chain os
    (∀ sub ∈ w.store.subscriptions,
      sub.tracking.Sound config.historyWindow w.lastHeight ∧ sub.subscribers.Nodup) ∧
    ∀ r ∈ w.store.validators, r.Sound config.accountPrefix := by
  intro w
  have hl : 1 ≤ config.historyWindow := TrackerConfig.one_le_historyWindow hc
  have hsound : w.store.Sound config w.lastHeight :=
    (invariant config chain (P := fun height s => s.Sound config height)
      (fun _ _ _ hle hs => hs.mono hle) (fun _ => Memory.sound_upkeep)
      (fun _ => Memory.sound_enlist) (fun _ hpos => Memory.sound_observe hl hpos)
      Memory.sound_empty os).2
  have htidy : w.store.Tidy := (tidy_reachedBy config chain os).2
  exact ⟨fun sub hsub => ⟨hsound.trackings sub hsub, htidy.subscribers sub hsub⟩,
    hsound.validators⟩

/-- A validator that is followed, votes, and goes to jail. -/
theorem sound_reachedBy_of_vote :
    let os : List (Operation Scripted) :=
      [.act (.turn (Alpha.chain false)), .act .bootstrap,
        .act (.subscribe Alpha.operator "chat-1"),
        .act (.block ⟨8, "", 0, [⟨"72CD6E8422C407FB6D098690F1130B7DED7EC2F7", true⟩]⟩),
        .act (.turn (Alpha.chain true)), .act (.checkJailed Alpha.operator 8),
        .act (.block ⟨9, "", 0, []⟩)]
    let w := reachedBy .standard Scripted.empty os
    let t : Tracking := ⟨0, 1, 0, ⟨[⟨8, true⟩, ⟨9, false⟩]⟩⟩
    w.store.subscriptions = [⟨Alpha.operator, t, ["chat-1"]⟩] ∧ t.Sound 1000 9 ∧
      ∃ r, w.store.validators = [r] ∧ r.jailed = true ∧ r.Sound "cosmos" := by
  intro os w t
  obtain ⟨hheight, hsubs, r, hr, hj⟩ : w.lastHeight = 9 ∧
      w.store.subscriptions = [⟨Alpha.operator, t, ["chat-1"]⟩] ∧
      ∃ r ∈ w.store.validators.head?, w.store.validators = [r] ∧ r.jailed = true := by
    decide +kernel
  have hc : TrackerConfig.standard.validate = .ok .standard := by rfl
  have h := sound_reachedBy .standard hc Scripted.empty os
  rw [show reachedBy .standard Scripted.empty os = w from rfl] at h
  clear_value w
  obtain ⟨hsound, hrecords⟩ := h
  rw [hsubs, hheight] at hsound
  rw [hj.1] at hrecords
  have ht := (hsound _ (List.mem_singleton_self _)).1
  exact ⟨hsubs, ht, r, hj.1, hj.2, hrecords r (List.mem_singleton_self r)⟩

end Engine

end Liveness
