import Mathlib.Data.List.Infix
import Liveness.Chain.Scripted
import Liveness.Proofs.Growth
import Liveness.Proofs.Jail

/-!
# Jailings over runs

The message of a jailing is sent by checks alone, the direct ones and those that a block puts off,
and nothing in the step that sends it frees the validator again. So from the end of that step the
streak is frozen and silent until a write says that the validator is out, while its history grows
with every block.
-/

namespace Liveness

open Work

/-! ## Steps that announce -/

theorem Deed.OfRoutine.not_jail {config : TrackerConfig} (operator : String) :
    ¬ Deed.OfRoutine config (.jail operator) := by
  rintro ⟨job, hj, hd⟩
  cases hj with
  | scan => cases hd with | scan _ hd => cases hd
  | _ => cases hd

theorem Deed.OfVotes.not_jail {height limit : Nat} (operator : String) :
    ¬ Deed.OfVotes height limit (.jail operator) := by
  intro h
  cases h

/-- A validator that is marked late had a record, and was outside jail, when the votes were
counted. -/
theorem Deed.OfLate.jailed?_of_jail {config : TrackerConfig} {s : Memory} {height : Nat}
    {operator : String} (h : Deed.OfLate config s height (.jail operator)) :
    s.jailed? operator = some false := by
  obtain ⟨job, hj, hd⟩ := h
  cases hj with
  | recheck hj => cases hd; exact hj
  | refetch => cases hd

namespace Action

variable {κ : Type} [Chain κ] (hκ : Chain.Faithful κ) (config : TrackerConfig)
  {w : World κ Memory} {operator : String} {e : Effect Memory} {es₁ es₂ : List (Effect Memory)}
include hκ

/-- A block tells of jailings in its last phase only, and nothing after the message frees the
operator again. -/
theorem block_of_announces {b : Block} (hw : w.Settled)
    (hes : ((block b).step config).effects w = es₁ ++ e :: es₂) (he : e.Announces operator) :
    (Engine.counting config b w).store.jailed? operator = some false ∧
      ∀ f ∈ es₂, ¬ f.Frees operator := by
  have hroutine := (Engine.acts_counting hκ config b hw.backlog).deeds.not_announces
    (Deed.OfRoutine.not_jail operator)
  have hvotes := (Engine.acts_counted config b w).deeds.not_announces
    (Deed.OfVotes.not_jail operator)
  have hl := (Engine.acts_late hκ config b hw.backlog).deeds
  rcases block_cases config b hw.backlog with ⟨-, -, heff⟩ | ⟨-, ⟨-, -, heff⟩ | ⟨-, -, heff⟩⟩
  · rw [heff] at hes
    simp at hes
  · rw [heff] at hes
    exact absurd he (hroutine e (by simp [hes]))
  · rw [heff] at hes
    obtain ⟨es₁', -, hes⟩ := exists_append_of_not_mem hes fun h => hroutine e h he
    obtain ⟨late, -, hes⟩ := exists_append_of_not_mem hes fun h => hvotes e h he
    rw [hes] at hl
    obtain ⟨targets, r, height, rfl, rfl⟩ := he
    obtain ⟨hd, es₀, s, -, -, hin, -, hafter⟩ := hl.jail_of_sent
    have hout := hd.jailed?_of_jail
    refine ⟨hout, hafter.not_frees ?_ hin⟩
    exact Deed.OfLate.not_refresh (Memory.validator?_ne_none hout)

/-- Nothing after the message of a jailing frees the operator again in the same step. -/
theorem not_frees_of_announces {a : Action κ} (hw : w.Settled)
    (hes : (a.step config).effects w = es₁ ++ e :: es₂) (he : e.Announces operator) :
    ∀ f ∈ es₂, ¬ f.Frees operator := by
  by_cases ha : ∃ b, a = .block b
  · obtain ⟨b, rfl⟩ := ha
    exact (block_of_announces hκ config hw hes he).2
  · have h := (acts_step hκ config (fun b hb => ha ⟨b, hb⟩) hw.backlog).deeds
    rw [hes] at h
    obtain ⟨targets, r, height, rfl, rfl⟩ := he
    obtain ⟨hd, es₀, s, -, -, hin, -, hafter⟩ := h.jail_of_sent
    refine hafter.not_frees (fun accountPrefix hr => ?_) hin
    cases hd with
    | jail op height => cases hr
    | scan height hd => cases hd

/-- A step that tells of a jailing leaves the validator in jail. -/
theorem jailed?_of_announces {a : Action κ} (hw : w.Settled)
    (hmem : e ∈ (a.step config).effects w) (he : e.Announces operator) :
    ((a.step config).runIn w).2.store.jailed? operator = some true := by
  obtain ⟨es₁, es₂, hes⟩ := List.append_of_mem hmem
  have hfree := not_frees_of_announces hκ config hw hes he
  have h := (a.shows_step config hκ hw).1
  rw [Keeps, hes] at h
  have hd := h.deeds
  rw [h.store]
  obtain ⟨targets, r, height, rfl, rfl⟩ := he
  obtain ⟨-, es₀, s, rfl, -, hin, -, hafter⟩ := hd.jail_of_sent
  have hrun : Deeds (fun _ => True) s (es₂ ++ []) := by rwa [List.append_nil]
  simpa using (hrun.jailed_run hin hfree).1

end Action

/-! ## A validator that goes to jail -/

/-- A scripted chain answers about the operator that it is asked about. -/
theorem Scripted.faithful : Chain.Faithful Scripted := by
  intro c operator s h
  cases hs : c.snapshots.find? (·.operator == operator) with
  | none =>
    simp only [Chain.validator, Scripted.answer, Scripted.snapshot?, hs] at h
    split at h <;> cases h
  | some t =>
    simp only [Chain.validator, Scripted.answer, Scripted.snapshot?, hs] at h
    split at h
    · cases h
    · obtain rfl := Except.ok.inj h
      simpa using List.find?_some hs

namespace Alpha

/-- The operator of a validator. -/
def operator : String := "cosmosvaloper1qyqszqgpqyqszqgpqyqszqgpqyqszqgph84tp0"

/-- A chain with this validator alone, in or out of jail. -/
def chain (jailed : Bool) : Scripted :=
  Scripted.empty.putSnapshot {
    operator := operator
    key := .base64 "AQEBAQEBAQEBAQEBAQEBAQEBAQEBAQEBAQEBAQEBAQE="
    jailed := jailed
    status := 3
    tokens := 1000
    description := { Description.blank with moniker := "Alpha" }
    commission := ⟨0.0, 0.0, 0.0⟩ }

/-- The validator is followed and goes to jail. -/
def followed : List (Action Scripted) :=
  [.turn (chain false), .subscribe operator "chat-1", .turn (chain true)]

end Alpha

/-! ## Runs -/

namespace Engine

variable {κ : Type} [Chain κ] {operator : String} {w : World κ Memory}

/-- A check tells of the jailing of its own operator, and only if it put the flag from false to
true. -/
theorem flips_of_announces {height : Nat} {op : String} {e : Effect Memory}
    (hmem : e ∈ (checkJailed op height).effects w) (he : e.Announces operator) :
    operator = op ∧ w.store.jailed? operator = some false ∧
      ((checkJailed op height).runIn w).2.store.jailed? operator = some true := by
  obtain ⟨targets, r', k, rfl, rfl⟩ := he
  obtain ⟨chain, ⟨o, -, -, hes | hes⟩ | ⟨r, hr, hj, hrun, hes⟩⟩ := checkJailed_cases op height w
  · simp [hes] at hmem
  · simp [hes] at hmem
  · obtain rfl := Memory.operator_of_validator? hr
    obtain ⟨-, rfl, -⟩ : targets = w.store.followers r.operator ∧
        r' = { r with jailed := true } ∧ k = height := by simpa [hes] using hmem
    refine ⟨rfl, (Memory.jailed?_of_validator? hr).trans (congrArg some hj), ?_⟩
    rw [hrun]
    simp

/-- What follows an action that tells of a jailing, up to a write that frees the operator: no alert
about it, and the streak of any subscription as it was. -/
theorem frozen_of_announces (hκ : Chain.Faithful κ) (config : TrackerConfig) (hw : w.Settled)
    {a : Action κ} {e : Effect Memory} (hmem : e ∈ (a.step config).effects w)
    (he : e.Announces operator) {later : List (Action κ)} {pre mid es₂ : List (Effect Memory)}
    (hes : (run config later).effects ((a.step config).runIn w).2 = pre ++ (mid ++ es₂))
    (hf : ∀ f ∈ pre ++ mid, ¬ f.Frees operator) :
    let s := ((a.step config).runIn w).2.store
    (∀ f ∈ pre ++ mid, ¬ f.Alerts operator) ∧
      ((∀ p, p <+: mid → (Effect.replay s (pre ++ p)).subscription? operator ≠ none) →
        ∀ sub ∈ (Effect.replay s pre).subscription? operator,
          ∀ sub' ∈ (Effect.replay s (pre ++ mid)).subscription? operator,
            sub'.tracking.streak = sub.tracking.streak) := by
  have hj := Action.jailed?_of_announces hκ config hw hmem he
  have hd := (shows_run config hκ later (a.shows_step config hκ hw).2).1.deeds
  rw [hes] at hd
  have hd' : Deeds (fun _ => True) ((a.step config).runIn w).2.store ((pre ++ mid) ++ es₂) := by
    rwa [List.append_assoc]
  exact ⟨(hd'.jailed_run hj hf).2, hd.streak_run hj hf⟩

/-- Jailings of an operator are told at most once each, and they freeze its streak. A check tells of
one only if it put the flag from false to true, and between two messages a write put it back to
false. From the end of the step that sent a message until such a write there are no alerts and the
streak of a subscription stays what it is, while each block that is taken adds an entry to the
history. -/
theorem jailing_told_once (hκ : Chain.Faithful κ) (config : TrackerConfig) (chain : κ)
    (operator : String) :
    (∀ (w : World κ Memory) (op : String) (height : Nat), ∀ e ∈ (checkJailed op height).effects w,
      e.Announces operator → operator = op ∧ w.store.jailed? operator = some false ∧
        ((checkJailed op height).runIn w).2.store.jailed? operator = some true) ∧
    (∀ actions es₁ e mid e' es₂, trace config chain actions = es₁ ++ e :: (mid ++ e' :: es₂) →
      e.Announces operator → e'.Announces operator →
      ∃ mid₁ f mid₂, mid = mid₁ ++ f :: mid₂ ∧ f.Frees operator ∧
        (Effect.replay .empty (es₁ ++ e :: mid₁)).jailed? operator = some true) ∧
    ∀ before (a : Action κ), (∃ e ∈ (a.step config).effects (reached config chain before),
        e.Announces operator) →
      (∀ later pre mid es₂,
        (run config later).effects (reached config chain (before ++ [a])) = pre ++ (mid ++ es₂) →
        (∀ f ∈ pre ++ mid, ¬ f.Frees operator) →
        let s := (reached config chain (before ++ [a])).store
        (∀ f ∈ pre ++ mid, ¬ f.Alerts operator) ∧
          ((∀ p, p <+: mid → (Effect.replay s (pre ++ p)).subscription? operator ≠ none) →
            ∀ sub ∈ (Effect.replay s pre).subscription? operator,
              ∀ sub' ∈ (Effect.replay s (pre ++ mid)).subscription? operator,
                sub'.tracking.streak = sub.tracking.streak)) ∧
      ∀ later (b : Block) (sub : Subscription),
        let w := reached config chain (before ++ a :: later)
        let w' := (((Action.block b).step config).runIn w).2
        w.lastHeight < b.height → w.store.subscription? operator = some sub →
        isTracked config sub = true →
        ∃ sub' r, w'.store.subscription? operator = some sub' ∧
          w'.store.validator? operator = some r ∧
          sub'.tracking.history =
            grown config sub.tracking.history ⟨b.height, b.signedBy r.consensus⟩ := by
  refine ⟨fun w op height e hmem he => flips_of_announces hmem he, ?_, ?_⟩
  · intro actions es₁ e mid e' es₂ hes he he'
    have hd := (shows_reached config chain hκ actions).1.deeds
    rw [hes] at hd
    exact hd.frees_between he he'
  · rintro before a ⟨e, hmem, he⟩
    have hset := (shows_reached config chain hκ before).2
    have hreach := (reached_step config chain before a).1
    refine ⟨fun later pre mid es₂ hes hf => ?_, fun later b sub hlt hs ht => ?_⟩
    · rw [hreach] at hes ⊢
      exact frozen_of_announces hκ config hset hmem he hes hf
    · have hj := Action.jailed?_of_announces hκ config hset hmem he
      have happ : before ++ a :: later = (before ++ [a]) ++ later := by simp
      obtain ⟨hrun, -⟩ := reached_append config chain (before ++ [a]) later
      have hr : (reached config chain (before ++ a :: later)).store.validator? operator ≠ none := by
        rw [happ, hrun, hreach]
        have hsh := (shows_run config hκ later (a.shows_step config hκ hset).2).1
        rw [hsh.store]
        exact hsh.deeds.validator_kept (Memory.validator?_ne_none hj)
      exact history_block hκ (shows_reached config chain hκ _).2 hlt hs ht hr

/-- A validator that goes to jail, stays there for a block and goes there again. -/
theorem jailing_told_once_again :
    let a : Action Scripted := .checkJailed Alpha.operator 7
    let b : Block := ⟨8, "", 0, []⟩
    let w := reached .standard Scripted.empty Alpha.followed
    let w' := reached .standard Scripted.empty (Alpha.followed ++ [a])
    let es := (run .standard [.block b]).effects w'
    let t := trace .standard Scripted.empty (Alpha.followed ++ [a, .block b,
      .turn (Alpha.chain false), .refreshOne Alpha.operator, .turn (Alpha.chain true),
      .checkJailed Alpha.operator 9])
    (w.store.jailed? Alpha.operator = some false ∧
      ((checkJailed Alpha.operator 7).runIn w).2.store.jailed? Alpha.operator = some true) ∧
    (∃ f ∈ (t.drop 5).take 4, f.Frees Alpha.operator) ∧
    (∀ f ∈ es, ¬ f.Alerts Alpha.operator) ∧
    (∀ sub ∈ w'.store.subscription? Alpha.operator,
      ∀ sub' ∈ (Effect.replay w'.store es).subscription? Alpha.operator,
        sub'.tracking.streak = sub.tracking.streak) ∧
    ∃ sub', (((Action.block b).step .standard).runIn w').2.store.subscription? Alpha.operator =
      some sub' ∧ sub'.tracking.history = grown .standard .empty ⟨8, false⟩ := by
  intro a b w w' es t
  obtain ⟨hcheck, ht, htold, hfree, hsub, hlt, hs⟩ :
      (∃ e ∈ (checkJailed Alpha.operator 7).effects w, e.Announces Alpha.operator) ∧
      (∃ _ : 9 < t.length, t = t.take 4 ++ t[4] :: ((t.drop 5).take 4 ++ t[9] :: []) ∧
        t[4].Announces Alpha.operator ∧ t[9].Announces Alpha.operator) ∧
      (∃ e ∈ (a.step .standard).effects w, e.Announces Alpha.operator) ∧
      (∀ f ∈ es, ¬ f.Frees Alpha.operator) ∧
      (∀ p ∈ es.inits, (Effect.replay w'.store p).subscription? Alpha.operator ≠ none) ∧
      w'.lastHeight < 8 ∧ w'.store.subscription? Alpha.operator =
        some ⟨Alpha.operator, .fresh, ["chat-1"]⟩ := by
    decide +kernel
  obtain ⟨hflip, hsep, hstep⟩ :=
    jailing_told_once Scripted.faithful .standard Scripted.empty Alpha.operator
  obtain ⟨hfrozen, hgrown⟩ := hstep Alpha.followed a htold
  obtain ⟨halerts, hstreak⟩ : (∀ f ∈ es, ¬ f.Alerts Alpha.operator) ∧
      ∀ sub ∈ w'.store.subscription? Alpha.operator,
        ∀ sub' ∈ (Effect.replay w'.store es).subscription? Alpha.operator,
          sub'.tracking.streak = sub.tracking.streak := by
    have hes : (run .standard [.block b]).effects w' = es := rfl
    generalize es = es' at hes hfree hsub
    obtain ⟨halerts, hstreak⟩ := hfrozen [.block b] [] es' [] (by simpa using hes) hfree
    exact ⟨halerts, hstreak fun p hp => hsub p ((List.mem_inits p es').mpr hp)⟩
  refine ⟨?_, ?_, halerts, hstreak, ?_⟩
  · obtain ⟨e, hmem, he⟩ := hcheck
    exact (hflip w Alpha.operator 7 e hmem he).2
  · obtain ⟨_, ht, he, he'⟩ := ht
    obtain ⟨mid₁, f, mid₂, hm, hf, -⟩ := hsep _ _ _ _ _ _ ht he he'
    exact ⟨f, by rw [hm]; simp, hf⟩
  · obtain ⟨sub', r, hs', -, hh⟩ := hgrown [] b _ hlt hs rfl
    have hw' : reached .standard Scripted.empty (Alpha.followed ++ [a]) = w' := rfl
    rw [hw'] at hs'
    exact ⟨sub', hs', hh⟩

end Engine

end Liveness
