import Mathlib.Data.List.Basic
import Liveness.Alert
import Liveness.Proofs.Memory
import Liveness.Registry

/-!
# What the engine does to a memory store

Everything the engine ever writes to a memory store or sends is one of a few deeds. Each deed is
told by the effects it leaves and by what must hold of the store for it. That a validator is marked
as jailed and that its followers are told so is one deed of two effects.
-/

namespace Liveness

/-! ## Effects on a store -/

namespace Effect

variable {σ : Type}

/-- The store after an effect. -/
def after (s : σ) : Effect σ → σ
  | .stored s' => s'
  | .sent _ _ => s

/-- The store after some effects. -/
def replay (s : σ) (es : List (Effect σ)) : σ := es.foldl after s

/-- What is delivered by an effect. -/
def deliveries : Effect σ → List Delivery
  | .stored _ => []
  | .sent targets message => targets.map (⟨·, message.text⟩)

@[simp] theorem after_stored (s s' : σ) : after s (.stored s') = s' := rfl

@[simp] theorem after_sent (s : σ) (targets : List String) (message : Message) :
    after s (.sent targets message) = s := rfl

@[simp] theorem replay_nil (s : σ) : replay s [] = s := rfl

@[simp] theorem replay_cons (s : σ) (e : Effect σ) (es : List (Effect σ)) :
    replay s (e :: es) = replay (after s e) es := rfl

@[simp] theorem replay_append (s : σ) (es es' : List (Effect σ)) :
    replay s (es ++ es') = replay (replay s es) es' := List.foldl_append

end Effect

/-! ## Places in lists -/

section Places

variable {α : Type} {a b c : α} {l l' : List α}

theorem append_cons_eq_singleton (h : l ++ a :: l' = [b]) : l = [] ∧ a = b ∧ l' = [] := by
  rcases l with _ | ⟨d, l⟩
  · obtain ⟨rfl, rfl⟩ := List.cons_eq_cons.mp h
    exact ⟨rfl, rfl, rfl⟩
  · simp at h

theorem append_cons_eq_pair (h : l ++ a :: l' = [b, c]) :
    (l = [] ∧ a = b ∧ l' = [c]) ∨ (l = [b] ∧ a = c ∧ l' = []) := by
  rcases l with _ | ⟨d, l⟩
  · exact Or.inl ⟨rfl, List.cons_eq_cons.mp h⟩
  · rw [List.cons_append, List.cons_eq_cons] at h
    obtain ⟨rfl, rfl, rfl⟩ := append_cons_eq_singleton h.2
    exact Or.inr ⟨by rw [h.1], rfl, rfl⟩

theorem prefix_singleton_cases (h : l <+: [a]) : l = [] ∨ l = [a] := by
  rcases List.prefix_cons_iff.mp h with rfl | ⟨l', rfl, h'⟩
  · exact Or.inl rfl
  · exact Or.inr (by rw [List.prefix_nil.mp h'])

theorem prefix_pair_cases (h : l <+: [a, b]) : l = [] ∨ l = [a] ∨ l = [a, b] := by
  rcases List.prefix_cons_iff.mp h with rfl | ⟨l', rfl, h'⟩
  · exact Or.inl rfl
  · rcases prefix_singleton_cases h' with rfl | rfl
    · exact Or.inr (Or.inl rfl)
    · exact Or.inr (Or.inr rfl)

theorem exists_append_of_not_mem {l₁ l₂ : List α} (h : l ++ l' = l₁ ++ a :: l₂) (ha : a ∉ l) :
    ∃ l₀, l₁ = l ++ l₀ ∧ l' = l₀ ++ a :: l₂ := by
  rcases List.append_eq_append_iff.mp h with ⟨l₀, h₁, h₂⟩ | ⟨l₀, h₁, h₂⟩
  · exact ⟨l₀, h₁, h₂⟩
  · cases l₀ with
    | nil => exact ⟨[], by simpa using h₁.symm, h₂.symm⟩
    | cons a' l₀ =>
      obtain ⟨rfl, -⟩ := List.cons_eq_cons.mp h₂
      exact absurd (by simp [h₁]) ha

end Places

/-! ## Deeds -/

/-- A kind of deed, with what it is about. -/
inductive Deed where
  /-- A write that changes nothing. -/
  | idle
  /-- A block is kept, and those beyond a limit are dropped. -/
  | keep (block : BlockRecord) (limit : Nat)
  /-- A record is written as the chain tells it, with an account prefix. -/
  | refresh (accountPrefix operator : String)
  /-- A record is marked as jailed, and the followers are told. -/
  | jail (operator : String)
  /-- A fresh subscription is added. -/
  | enrol (operator : String)
  /-- The tracking of a validator outside jail starts anew. -/
  | restart (operator : String)
  /-- A target starts to follow an operator. -/
  | follow (operator target : String)
  /-- A target stops to follow an operator. -/
  | unfollow (operator target : String)
  /-- The last target stops to follow an operator, and the subscription is dropped. -/
  | drop (operator target : String)
  /-- A block is observed with a limit for the history; if that is due, the followers are told. -/
  | observe (operator : String) (height limit : Nat)
  /-- Targets are told that a validator left jail. -/
  | welcome (operator : String)
  /-- A report is sent. -/
  | report (operator : String)
  deriving DecidableEq, Repr

namespace Deed

/-- The effects that a deed leaves in a store. -/
inductive Leaves : Deed → Memory → List (Effect Memory) → Prop where
  | idle (s : Memory) : Leaves .idle s [.stored s]
  | keep (s : Memory) (block : BlockRecord) (limit : Nat) :
      Leaves (.keep block limit) s [.stored (s.insertBlock block limit)]
  | refresh (s : Memory) {accountPrefix : String} {snapshot : Snapshot} {r : ValidatorRecord}
      (hr : Registry.recordOf accountPrefix snapshot = .ok r) :
      Leaves (.refresh accountPrefix r.operator) s [.stored (s.putValidator r)]
  | jail {s : Memory} {operator : String} {r : ValidatorRecord} (height : Nat)
      (hr : s.validator? operator = some r) (hj : r.jailed = false) :
      Leaves (.jail operator) s
        [.stored (s.putValidator { r with jailed := true }),
          .sent (s.followers operator) (.jailed { r with jailed := true } height)]
  | enrol {s : Memory} {operator : String} (hs : s.subscription? operator = none) :
      Leaves (.enrol operator) s [.stored (s.putSubscription (.fresh operator))]
  | restart {s : Memory} {operator : String} {sub : Subscription}
      (hs : s.subscription? operator = some sub) (hj : s.jailed? operator = some false) :
      Leaves (.restart operator) s
        [.stored (s.putSubscription { sub with tracking := sub.tracking.restart })]
  | follow {s : Memory} {operator target : String} {sub sub' : Subscription}
      (hs : s.subscription? operator = some sub) (ht : sub.addSubscriber? target = some sub') :
      Leaves (.follow operator target) s
        [.stored (s.putSubscription { sub with subscribers := sub'.subscribers })]
  | unfollow {s : Memory} {operator target : String} {sub sub' : Subscription}
      (hs : s.subscription? operator = some sub) (ht : sub.removeSubscriber? target = some sub') :
      Leaves (.unfollow operator target) s
        [.stored (s.putSubscription { sub with subscribers := sub'.subscribers })]
  | drop {s : Memory} {operator target : String} {sub sub' : Subscription}
      (hs : s.subscription? operator = some sub) (ht : sub.removeSubscriber? target = some sub')
      (hl : sub'.hasSubscribers = false) :
      Leaves (.drop operator target) s [.stored (s.deleteSubscription operator)]
  | observe {s : Memory} {operator : String} {sub : Subscription} {r : ValidatorRecord}
      {height limit : Nat} {found : Bool} {window : Float} {t : Tracking} {o : Observation}
      (hs : s.subscription? operator = some sub) (hr : s.validator? operator = some r)
      (ht : sub.tracking.observe height found r.jailed window limit = (t, o))
      (ho : o.shouldNotify = false) :
      Leaves (.observe operator height limit) s
        [.stored (s.putSubscription { sub with tracking := t })]
  | alert {s : Memory} {operator : String} {sub : Subscription} {r : ValidatorRecord}
      {height limit counter level : Nat} {found : Bool} {window : Float} {t : Tracking}
      (hs : s.subscription? operator = some sub) (hr : s.validator? operator = some r)
      (ht : sub.tracking.observe height found r.jailed window limit =
        (t, .missed counter level true)) :
      Leaves (.observe operator height limit) s
        [.sent sub.subscribers (.missed r counter height level),
          .stored (s.putSubscription { sub with tracking := t })]
  | welcome (s : Memory) (r : ValidatorRecord) (targets : List String) (height : Nat) :
      Leaves (.welcome r.operator) s [.sent targets (.unjailed r height)]
  | report (s : Memory) (r : Report) (targets : List String) :
      Leaves (.report r.operator) s [.sent targets (.report r)]

variable {d : Deed} {s : Memory} {es es' : List (Effect Memory)}

/-- A deed writes at most once. -/
theorem Leaves.eq_of_stored_mem (hl : d.Leaves s es) {s' : Memory} (h : .stored s' ∈ es) :
    s' = Effect.replay s es := by
  cases hl <;> simp at h <;> exact h

/-- Within a deed the store is the one before it or the one after it. -/
theorem Leaves.replay_prefix (hl : d.Leaves s es) (hp : es' <+: es) :
    Effect.replay s es' = s ∨ Effect.replay s es' = Effect.replay s es := by
  cases hl with
  | jail =>
    rcases prefix_pair_cases hp with rfl | rfl | rfl
    · exact Or.inl rfl
    · exact Or.inr rfl
    · exact Or.inr rfl
  | alert =>
    rcases prefix_pair_cases hp with rfl | rfl | rfl
    · exact Or.inl rfl
    · exact Or.inl rfl
    · exact Or.inr rfl
  | _ =>
    rcases prefix_singleton_cases hp with rfl | rfl
    · exact Or.inl rfl
    · exact Or.inr rfl

/-- What a deed can do to the record of an operator. -/
theorem Leaves.validator_cases (hl : d.Leaves s es) (operator : String) :
    (Effect.replay s es).validator? operator = s.validator? operator ∨
      (∃ accountPrefix r, d = .refresh accountPrefix operator ∧
        (Effect.replay s es).validator? operator = some r) ∨
      ∃ r, d = .jail operator ∧ s.validator? operator = some r ∧ r.jailed = false ∧
        (Effect.replay s es).validator? operator = some { r with jailed := true } := by
  cases hl with
  | @refresh _ accountPrefix _ r =>
    by_cases hop : r.operator = operator
    · obtain rfl := hop
      exact Or.inr (Or.inl ⟨accountPrefix, r, rfl, by simp⟩)
    · exact Or.inl (by simp [hop])
  | @jail _ op r _ hr hj =>
    obtain rfl := Memory.operator_of_validator? hr
    by_cases hop : r.operator = operator
    · obtain rfl := hop
      exact Or.inr (Or.inr ⟨r, rfl, hr, hj, by simp⟩)
    · exact Or.inl (by simp [hop])
  | _ => exact Or.inl rfl

/-- What a deed can do to the subscription of an operator. -/
theorem Leaves.subscription_cases (hl : d.Leaves s es) (operator : String) :
    (Effect.replay s es).subscription? operator = s.subscription? operator ∨
      (d = .enrol operator ∧ s.subscription? operator = none ∧
        (Effect.replay s es).subscription? operator = some (.fresh operator)) ∨
      (∃ target, d = .drop operator target ∧
        (Effect.replay s es).subscription? operator = none) ∨
      ∃ sub sub', s.subscription? operator = some sub ∧
        (Effect.replay s es).subscription? operator = some sub' ∧
        ((d = .restart operator ∧ sub' = { sub with tracking := sub.tracking.restart }) ∨
          (∃ target targets, (d = .follow operator target ∨ d = .unfollow operator target) ∧
            sub' = { sub with subscribers := targets }) ∨
          ∃ height limit found jailed window, d = .observe operator height limit ∧
            sub' = { sub with
              tracking := (sub.tracking.observe height found jailed window limit).1 }) := by
  have hput : ∀ {op sub}, s.subscription? op = some sub → ∀ t targets,
      (op = operator → (s.putSubscription ⟨sub.operator, t, targets⟩).subscription? operator =
        some ⟨sub.operator, t, targets⟩) ∧
      (op ≠ operator → (s.putSubscription ⟨sub.operator, t, targets⟩).subscription? operator =
        s.subscription? operator) := by
    intro op sub hs t targets
    rw [Memory.subscription?_putSubscription, Memory.operator_of_subscription? hs]
    exact ⟨fun h => if_pos h, fun h => if_neg h⟩
  cases hl with
  | @enrol _ op hn =>
    by_cases hop : op = operator
    · obtain rfl := hop
      exact Or.inr (Or.inl ⟨rfl, hn, by simp [Subscription.fresh]⟩)
    · exact Or.inl (by simp [Subscription.fresh, hop])
  | @restart _ op sub hs =>
    by_cases hop : op = operator
    · obtain rfl := hop
      exact Or.inr (Or.inr (Or.inr ⟨sub, _, hs, (hput hs _ _).1 rfl, Or.inl ⟨rfl, rfl⟩⟩))
    · exact Or.inl ((hput hs _ _).2 hop)
  | @follow _ op target sub sub' hs =>
    by_cases hop : op = operator
    · obtain rfl := hop
      exact Or.inr (Or.inr (Or.inr ⟨sub, _, hs, (hput hs _ _).1 rfl,
        Or.inr (Or.inl ⟨target, sub'.subscribers, Or.inl rfl, rfl⟩)⟩))
    · exact Or.inl ((hput hs _ _).2 hop)
  | @unfollow _ op target sub sub' hs =>
    by_cases hop : op = operator
    · obtain rfl := hop
      exact Or.inr (Or.inr (Or.inr ⟨sub, _, hs, (hput hs _ _).1 rfl,
        Or.inr (Or.inl ⟨target, sub'.subscribers, Or.inr rfl, rfl⟩)⟩))
    · exact Or.inl ((hput hs _ _).2 hop)
  | @drop _ op target =>
    by_cases hop : op = operator
    · obtain rfl := hop
      exact Or.inr (Or.inr (Or.inl ⟨target, rfl, by simp⟩))
    · exact Or.inl (by simp [hop])
  | @observe _ op sub r height limit found window t o hs hr ht =>
    by_cases hop : op = operator
    · obtain rfl := hop
      refine Or.inr (Or.inr (Or.inr ⟨sub, _, hs, (hput hs _ _).1 rfl, Or.inr (Or.inr ?_)⟩))
      exact ⟨height, limit, found, r.jailed, window, rfl, by rw [ht]⟩
    · exact Or.inl ((hput hs _ _).2 hop)
  | @alert _ op sub r height limit counter level found window t hs hr ht =>
    by_cases hop : op = operator
    · obtain rfl := hop
      refine Or.inr (Or.inr (Or.inr ⟨sub, _, hs, (hput hs _ _).1 rfl, Or.inr (Or.inr ?_)⟩))
      exact ⟨height, limit, found, r.jailed, window, rfl, by rw [ht]⟩
    · exact Or.inl ((hput hs _ _).2 hop)
  | _ => exact Or.inl rfl

end Deed

/-- The effects are those of deeds in `D`, one after another. -/
inductive Deeds (D : Deed → Prop) : Memory → List (Effect Memory) → Prop where
  | nil (s : Memory) : Deeds D s []
  | cons {d : Deed} {s : Memory} {es es' : List (Effect Memory)} (hd : D d) (hl : d.Leaves s es)
      (rest : Deeds D (Effect.replay s es) es') : Deeds D s (es ++ es')

namespace Deeds

variable {D D' : Deed → Prop} {s : Memory} {es es' es₁ es₂ : List (Effect Memory)}

theorem single {d : Deed} (hd : D d) (hl : d.Leaves s es) : Deeds D s es := by
  have h : Deeds D s (es ++ []) := .cons hd hl (.nil _)
  rwa [List.append_nil] at h

theorem append (h : Deeds D s es) (h' : Deeds D (Effect.replay s es) es') :
    Deeds D s (es ++ es') := by
  induction h with
  | nil s => exact h'
  | cons hd hl _ ih =>
    rw [List.append_assoc]
    rw [Effect.replay_append] at h'
    exact .cons hd hl (ih h')

theorem mono (h : Deeds D s es) (hD : ∀ d, D d → D' d) : Deeds D' s es := by
  induction h with
  | nil s => exact .nil s
  | cons hd hl _ ih => exact .cons (hD _ hd) hl ih

/-- What every deed preserves holds after all of them. -/
theorem preserves {P : Memory → Prop}
    (hP : ∀ d s es, D d → d.Leaves s es → P s → P (Effect.replay s es)) (h : Deeds D s es)
    (hs : P s) : P (Effect.replay s es) := by
  induction h with
  | nil s => exact hs
  | cons hd hl _ ih =>
    rw [Effect.replay_append]
    exact ih (hP _ _ _ hd hl hs)

/-- What every deed preserves holds at any place among their effects. -/
theorem preserves_prefix {P : Memory → Prop}
    (hP : ∀ d s es, D d → d.Leaves s es → P s → P (Effect.replay s es)) (h : Deeds D s es)
    (hp : es' <+: es) (hs : P s) : P (Effect.replay s es') := by
  obtain ⟨es₂, hes⟩ := hp
  induction h generalizing es' with
  | nil s =>
    obtain ⟨rfl, -⟩ := List.append_eq_nil_iff.mp hes
    exact hs
  | @cons d s ed er hd hl _ ih =>
    rcases List.append_eq_append_iff.mp hes with ⟨a, rfl, -⟩ | ⟨a, rfl, ha⟩
    · rcases hl.replay_prefix (List.prefix_append es' a) with h | h
      · rwa [h]
      · rw [h]
        exact hP _ _ _ hd hl hs
    · rw [Effect.replay_append]
      exact ih (hP _ _ _ hd hl hs) ha.symm

/-- Every effect is one of the effects of some deed, with deeds before and after it. -/
theorem exists_deed {e : Effect Memory} (h : Deeds D s es) (hes : es = es₁ ++ e :: es₂) :
    ∃ d pre before rest post, D d ∧ es₁ = pre ++ before ∧ es₂ = rest ++ post ∧
      d.Leaves (Effect.replay s pre) (before ++ e :: rest) ∧
      Deeds D (Effect.replay (Effect.replay s pre) (before ++ e :: rest)) post := by
  induction h generalizing es₁ with
  | nil s => simp at hes
  | @cons d s ed er hd hl hrest ih =>
    have hmore : ∀ l, Effect.replay s (ed ++ l) = Effect.replay (Effect.replay s ed) l :=
      Effect.replay_append s ed
    rcases List.append_eq_append_iff.mp hes with ⟨a, ha, hb⟩ | ⟨a, ha, hb⟩
    · obtain ⟨d', pre, before, rest, post, hd', rfl, h₂, hl', hpost⟩ := ih hb
      refine ⟨d', ed ++ pre, before, rest, post, hd', ?_, h₂, ?_, ?_⟩
      · rw [ha, List.append_assoc]
      · rwa [hmore]
      · rwa [hmore]
    · rcases a with _ | ⟨e', a⟩
      · have hb' : er = [] ++ e :: es₂ := by simpa using hb.symm
        obtain ⟨d', pre, before, rest, post, hd', h₁, h₂, hl', hpost⟩ := ih hb'
        refine ⟨d', ed ++ pre, before, rest, post, hd', ?_, h₂, ?_, ?_⟩
        · rw [List.append_assoc, ← h₁, ha, List.append_nil, List.append_nil]
        · rwa [hmore]
        · rwa [hmore]
      · obtain ⟨rfl, rfl⟩ := List.cons_eq_cons.mp hb
        refine ⟨d, [], es₁, a, er, hd, rfl, rfl, ?_, ?_⟩
        · rw [Effect.replay_nil, ← ha]
          exact hl
        · rw [Effect.replay_nil, ← ha]
          exact hrest

end Deeds

end Liveness
