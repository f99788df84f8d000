import Liveness.Engine
import Liveness.Proofs.Acts

/-!
# What an answer about a validator decides

The chain is asked about a validator to refresh its record and to look for a jailing. What follows
is decided by the answer and by the record there is: a refresh writes the record that the answer
gives, if it gives one, and a check marks the record if the answer says that the validator is in
jail and the record does not.
-/

namespace Liveness

open Work

/-- The record that a check leaves if it finds a jailing that was not known. -/
def Registry.marked? (answer : Except Failure Snapshot) (record? : Option ValidatorRecord) :
    Option ValidatorRecord :=
  match answer, record? with
  | .ok snapshot, some r =>
    if snapshot.jailed && !r.jailed then some { r with jailed := true } else none
  | _, _ => none

/-- The record that an answer gives. -/
def Registry.fetched (accountPrefix : String) (answer : Except Failure Snapshot) :
    Except Failure ValidatorRecord :=
  answer.bind (recordOf accountPrefix)

namespace World

variable {κ : Type} [Chain κ] (w : World κ Memory) (operator : String)

/-- What the chain answers about a validator. -/
def answer : Except Failure Snapshot := (Chain.validator w.chain operator none).1

/-- The world after the chain was asked about a validator. -/
def asked : World κ Memory := { w with chain := (Chain.validator w.chain operator none).2 }

end World

/-- A check changes one record, and only from outside jail to inside. -/
theorem Registry.exists_of_marked? {answer : Except Failure Snapshot}
    {record? : Option ValidatorRecord} {r : ValidatorRecord} (h : marked? answer record? = some r) :
    ∃ old, record? = some old ∧ old.jailed = false ∧ r = { old with jailed := true } := by
  unfold marked? at h
  split at h
  · rename_i snapshot old
    split at h
    · rename_i hj
      simp only [Bool.and_eq_true, Bool.not_eq_true'] at hj
      exact ⟨old, rfl, hj.2, (Option.some.inj h).symm⟩
    · cases h
  · cases h

theorem Registry.operator_of_marked? {s : Memory} {operator : String}
    {answer : Except Failure Snapshot} {r : ValidatorRecord}
    (h : marked? answer (s.validator? operator) = some r) : r.operator = operator := by
  obtain ⟨old, hold, -, rfl⟩ := exists_of_marked? h
  have hop : old.operator = operator := Memory.operator_of_validator? hold
  exact hop

variable {κ : Type} {w : World κ Memory} {operator : String}

/-! ## Refreshing a record -/

namespace Registry

variable [Chain κ] {accountPrefix : String}

theorem refreshOne_of_error {e : Failure}
    (h : fetched accountPrefix (w.answer operator) = .error e) :
    (refreshOne accountPrefix operator).runIn w = (.error (.failed e), w.asked operator) ∧
      (refreshOne accountPrefix operator).effects w = [] := by
  cases ha : (Chain.validator w.chain operator none).1 with
  | error e' =>
    obtain rfl : e' = e := by simpa [fetched, World.answer, ha, Except.bind] using h
    simp [refreshOne, World.asked, ha, Except.mapError]
  | ok s =>
    have hr : recordOf accountPrefix s = .error e := by
      simpa [fetched, World.answer, ha, Except.bind] using h
    simp [refreshOne, World.asked, ha, hr, Except.mapError]

theorem refreshOne_of_ok {r : ValidatorRecord}
    (h : fetched accountPrefix (w.answer operator) = .ok r) :
    (refreshOne accountPrefix operator).runIn w =
        (.ok r, { w.asked operator with store := w.store.putValidator r }) ∧
      (refreshOne accountPrefix operator).effects w = [.stored (w.store.putValidator r)] := by
  have hs : Store.upsertValidator w.store r = (.ok (), w.store.putValidator r) := rfl
  cases ha : (Chain.validator w.chain operator none).1 with
  | error e => simp [fetched, World.answer, ha, Except.bind] at h
  | ok s =>
    have hr : recordOf accountPrefix s = .ok r := by
      simpa [fetched, World.answer, ha, Except.bind] using h
    simp [refreshOne, World.asked, ha, hr, hs, Except.mapError, Except.map]

/-- The record that a faithful chain gives is about the operator it was asked about. -/
theorem operator_of_fetched (hκ : Chain.Faithful κ) {c : κ} {r : ValidatorRecord}
    (h : fetched accountPrefix (Chain.validator c operator none).1 = .ok r) :
    r.operator = operator := by
  obtain ⟨s, hs, hr⟩ := exists_of_bind_eq_ok h
  exact (operator_of_recordOf hr).trans (hκ c operator s hs)

end Registry

/-! ## Looking for a jailing -/

namespace Engine

@[simp] theorem runIn_followers (operator : String) (w : World κ Memory) :
    (followers operator).runIn w = (.ok (w.store.followers operator), w) := by
  simp [followers, Registry.subscription?, Store.findSubscription, Memory.followers, Except.map]

@[simp] theorem effects_followers (operator : String) (w : World κ Memory) :
    (followers operator).effects w = [] := by
  simp [followers, Registry.subscription?]

variable [Chain κ]

/-- A check that finds nothing only asks the chain. It does not wait for ever. -/
theorem checkJailed_of_none (height : Nat)
    (h : Registry.marked? (w.answer operator) (w.store.validator? operator) = none) :
    ∃ o, o ≠ .ok true ∧ o ≠ .error .hung ∧
      (checkJailed operator height).runIn w = (o, w.asked operator) ∧
      ((checkJailed operator height).effects w = [] ∨
        (checkJailed operator height).effects w = [.stored w.store]) := by
  cases ha : (Chain.validator w.chain operator none).1 with
  | error e =>
    refine ⟨.error (.failed e), by simp, by simp, ?_, Or.inl ?_⟩
    · simp [checkJailed, World.asked, ha, Except.mapError]
    · simp [checkJailed, ha, Except.mapError]
  | ok s =>
    cases hj : s.jailed with
    | false =>
      refine ⟨.ok false, by simp, by simp, ?_, Or.inl ?_⟩
      · simp [checkJailed, World.asked, ha, hj, Except.mapError]
      · simp [checkJailed, ha, hj, Except.mapError]
    | true =>
      cases hr : w.store.validator? operator with
      | none =>
        have hset : Store.setJailed w.store operator true =
            (.error (.failed (Store.noValidator operator)), w.store) := by
          simp [Store.setJailed, Memory.setJailed, hr]
        refine ⟨.error (.failed (Store.noValidator operator)), by simp, by simp, ?_, Or.inr ?_⟩
        · simp [checkJailed, World.asked, ha, hj, Except.mapError, Registry.markJailed, hset]
        · simp [checkJailed, ha, hj, Except.mapError, Registry.markJailed, hset]
      | some r =>
        have hrj : r.jailed = true := by
          simpa [Registry.marked?, World.answer, ha, hj, hr] using h
        have hset : Store.setJailed w.store operator true = (.ok false, w.store) := by
          simp [Store.setJailed, Memory.setJailed, hr, hrj]
        refine ⟨.ok false, by simp, by simp, ?_, Or.inr ?_⟩
        · simp [checkJailed, World.asked, ha, hj, Except.mapError, Registry.markJailed, hset]
        · simp [checkJailed, ha, hj, Except.mapError, Registry.markJailed, hset]

/-- A check that finds a jailing marks the record and tells those who follow. -/
theorem checkJailed_of_some (height : Nat) {r : ValidatorRecord}
    (h : Registry.marked? (w.answer operator) (w.store.validator? operator) = some r) :
    (checkJailed operator height).runIn w =
        (.ok true, { w.asked operator with
          store := w.store.putValidator r
          outbox := w.outbox ++
            (w.store.followers operator).map (⟨·, (Message.jailed r height).text⟩) }) ∧
      (checkJailed operator height).effects w =
        [.stored (w.store.putValidator r),
          .sent (w.store.followers operator) (.jailed r height)] := by
  obtain ⟨old, hold, hj, rfl⟩ := Registry.exists_of_marked? h
  obtain rfl := Memory.operator_of_validator? hold
  have hset : Store.setJailed w.store old.operator true =
      (.ok true, w.store.putValidator { old with jailed := true }) := by
    simp [Store.setJailed, Memory.setJailed, hold, hj]
  cases ha : (Chain.validator w.chain old.operator none).1 with
  | error e => simp [Registry.marked?, World.answer, ha] at h
  | ok s =>
    have hs : s.jailed = true := by
      by_contra hn
      simp [Registry.marked?, World.answer, ha, hold, hn] at h
    constructor
    · simp [checkJailed, World.asked, ha, hs, Except.mapError, Except.map, Registry.markJailed,
        hset, Store.findValidator]
    · simp [checkJailed, ha, hs, Except.mapError, Registry.markJailed, hset, Store.findValidator]

/-- A recheck is over when the check was made, whatever came of it. -/
theorem perform_recheck (config : TrackerConfig) (operator : String) (height : Nat)
    (w : World κ Memory) :
    ((perform config (.recheck operator height)).runIn w).2 =
        { ((checkJailed operator height).runIn w).2 with
          rechecking :=
            ((checkJailed operator height).runIn w).2.rechecking.filter (· != operator) } ∧
      (perform config (.recheck operator height)).effects w =
        (checkJailed operator height).effects w := by
  have hends : ((checkJailed operator height).runIn w).1 ≠ .error .hung := by
    cases hm : Registry.marked? (w.answer operator) (w.store.validator? operator) with
    | none =>
      obtain ⟨o, -, ho, hw, -⟩ := checkJailed_of_none height hm
      rwa [hw]
    | some r =>
      rw [(checkJailed_of_some height hm).1]
      simp
  have hi : (discard (isolate (checkJailed operator height)) : Work κ Memory Unit).runIn w =
      (.ok (), ((checkJailed operator height).runIn w).2) := by
    rw [runIn_discard, runIn_isolate]
    rcases ho : ((checkJailed operator height).runIn w).1 with (f | _) | found
    · rfl
    · exact absurd ho hends
    · rfl
  constructor
  · rw [perform, runIn_bind, hi]
    rfl
  · rw [perform, effects_bind, hi, effects_discard, effects_isolate]
    exact List.append_nil _

end Engine

end Liveness
