import Mathlib.Tactic.Common
import Liveness.World

/-!
# What a step keeps to

A relation between the world before a step, the effects of the step and the world after it passes
from the parts of a step to the whole if it holds of doing nothing and of one thing after another.
One lemma for each way to put steps together lifts it from the single queries, writes and messages.
-/

namespace Liveness.Work

variable {κ σ α β : Type} {w : World κ σ} {x : Work κ σ α} {f : α → Work κ σ β}

/-- The relation holds of doing nothing, and of one thing after another. -/
structure Composable (R : World κ σ → List (Effect σ) → World κ σ → Prop) : Prop where
  nil : ∀ w, R w [] w
  append : ∀ {w₁ w₂ w₃ es₁ es₂}, R w₁ es₁ w₂ → R w₂ es₂ w₃ → R w₁ (es₁ ++ es₂) w₃

/-- From this world on the step keeps to the relation. -/
def Keeps (R : World κ σ → List (Effect σ) → World κ σ → Prop) (x : Work κ σ α) (w : World κ σ) :
    Prop :=
  R w (x.effects w) (x.runIn w).2

variable {R : World κ σ → List (Effect σ) → World κ σ → Prop}

theorem keeps_pure (hR : Composable R) (a : α) : Keeps R (pure a : Work κ σ α) w := hR.nil w

theorem keeps_fail (hR : Composable R) (e : Failure) : Keeps R (fail e : Work κ σ α) w := hR.nil w

theorem keeps_throw (hR : Composable R) (s : Stop) : Keeps R (throw s : Work κ σ α) w := hR.nil w

theorem keeps_fetch (hR : Composable R) (query : σ → Except Stop α) : Keeps R (fetch query) w :=
  hR.nil w

/-- The second part of a step starts in the world that the first one leaves. -/
theorem Keeps.bind (hR : Composable R) (hx : Keeps R x w)
    (hf : ∀ a, (x.runIn w).1 = .ok a → Keeps R (f a) (x.runIn w).2) : Keeps R (x >>= f) w := by
  rcases hr : x.runIn w with ⟨r, w'⟩
  rw [Keeps, hr] at hx
  rw [Keeps, effects_bind, runIn_bind, hr]
  cases r with
  | error s => simpa using hx
  | ok a =>
    have h := hf a (by rw [hr])
    rw [hr] at h
    exact hR.append hx h

theorem Keeps.map (h : Keeps R x w) (g : α → β) : Keeps R (g <$> x) w := by
  rwa [Keeps, effects_map, runIn_map]

theorem Keeps.discard (h : Keeps R x w) : Keeps R (discard x) w := h.map _

theorem Keeps.attempt (h : Keeps R x w) : Keeps R (attempt x) w := by
  rwa [Keeps, effects_attempt, runIn_attempt]

theorem Keeps.isolate (h : Keeps R x w) : Keeps R (isolate x) w := by
  rwa [Keeps, effects_isolate, runIn_isolate]

/-! ## Reading and failing first -/

theorem keeps_fail_bind (hR : Composable R) (e : Failure) : Keeps R (fail e >>= f) w :=
  Keeps.bind hR (keeps_fail hR e) fun a h => by simp at h

/-- After a query to the store the step goes on in the same world. -/
theorem Keeps.fetch_bind {query : σ → Except Stop α} (hR : Composable R)
    (h : ∀ a, query w.store = .ok a → Keeps R (f a) w) : Keeps R (fetch query >>= f) w :=
  Keeps.bind hR (keeps_fetch hR query) h

/-! ## Lists -/

variable {l : List α}

/-- The steps of a list keep to the relation one after another, if each of them does so in every
world that satisfies `I` and leads to such a world. -/
theorem keeps_forM (hR : Composable R) (I : World κ σ → Prop) {g : α → Work κ σ Unit}
    (hg : ∀ a ∈ l, ∀ w, I w → Keeps R (g a) w ∧ I ((g a).runIn w).2) (hw : I w) :
    Keeps R (l.forM g) w := by
  induction l generalizing w with
  | nil => exact keeps_pure hR ()
  | cons a l ih =>
    obtain ⟨ha, hI⟩ := hg a (by simp) w hw
    exact Keeps.bind hR ha fun _ _ => ih (fun b hb => hg b (by simp [hb])) hI

theorem keeps_mapM (hR : Composable R) (hf : ∀ a ∈ l, ∀ w, Keeps R (f a) w) :
    Keeps R (l.mapM f) w := by
  induction l generalizing w with
  | nil => exact keeps_pure hR []
  | cons a l ih =>
    rw [List.mapM_cons]
    refine Keeps.bind hR (hf a (by simp) w) fun b _ => ?_
    refine Keeps.bind hR (ih fun b hb => hf b (by simp [hb])) fun bs _ => ?_
    exact keeps_pure hR _

theorem keeps_foldlM (hR : Composable R) (I : World κ σ → Prop) {g : β → α → Work κ σ β} {b : β}
    (hg : ∀ a ∈ l, ∀ b w, I w → Keeps R (g b a) w ∧ I ((g b a).runIn w).2) (hw : I w) :
    Keeps R (l.foldlM g b) w := by
  induction l generalizing b w with
  | nil => exact keeps_pure hR b
  | cons a l ih =>
    obtain ⟨ha, hI⟩ := hg a (by simp) b w hw
    exact Keeps.bind hR ha fun _ _ => ih (fun c hc => hg c (by simp [hc])) hI

/-! ## Steps that do not fail -/

/-- The step comes to its end in every world. -/
def Succeeds (x : Work κ σ α) : Prop := ∀ w, ∃ a, (x.runIn w).1 = .ok a

theorem succeeds_pure (a : α) : Succeeds (pure a : Work κ σ α) := fun _ => ⟨a, rfl⟩

theorem succeeds_attempt (x : Work κ σ α) : Succeeds (attempt x) := fun _ => ⟨_, rfl⟩

theorem Succeeds.bind (hx : Succeeds x) (hf : ∀ a, Succeeds (f a)) : Succeeds (x >>= f) := by
  intro w
  obtain ⟨a, ha⟩ := hx w
  rcases hr : x.runIn w with ⟨r, w'⟩
  obtain rfl : r = .ok a := by rw [← ha, hr]
  rw [runIn_bind, hr]
  exact hf a w'

theorem Succeeds.map (hx : Succeeds x) (g : α → β) : Succeeds (g <$> x) := by
  intro w
  obtain ⟨a, ha⟩ := hx w
  exact ⟨g a, by rw [runIn_map, ha]; rfl⟩

theorem succeeds_forM {g : α → Work κ σ Unit} (hg : ∀ a, Succeeds (g a)) : Succeeds (l.forM g) := by
  induction l with
  | nil => exact succeeds_pure ()
  | cons a l ih => exact (hg a).bind fun _ => ih

theorem succeeds_foldlM {g : β → α → Work κ σ β} (hg : ∀ b a, Succeeds (g b a)) (b : β) :
    Succeeds (l.foldlM g b) := by
  induction l generalizing b with
  | nil => exact succeeds_pure b
  | cons a l ih => exact (hg b a).bind ih

/-! ## Steps that do not look at the work put off -/

/-- Whatever work is put off, the step does the same and leaves that work as it is. -/
def Blind (x : Work κ σ α) : Prop :=
  ∀ w jobs,
    x.runIn { w with backlog := jobs } = ((x.runIn w).1, { (x.runIn w).2 with backlog := jobs }) ∧
      x.effects { w with backlog := jobs } = x.effects w

theorem blind_pure (a : α) : Blind (pure a : Work κ σ α) := fun _ _ => ⟨rfl, rfl⟩

theorem blind_fail (e : Failure) : Blind (fail e : Work κ σ α) := fun _ _ => ⟨rfl, rfl⟩

theorem blind_ofExcept (r : Except Failure α) : Blind (ofExcept r : Work κ σ α) := by
  cases r with
  | error e => exact blind_fail e
  | ok a => exact blind_pure a

theorem blind_fetch (query : σ → Except Stop α) : Blind (fetch query : Work κ σ α) :=
  fun _ _ => ⟨rfl, rfl⟩

theorem blind_ask (query : κ → Except Failure α × κ) : Blind (ask query : Work κ σ α) :=
  fun _ _ => ⟨rfl, rfl⟩

theorem blind_commit (change : σ → Except Stop α × σ) : Blind (commit change : Work κ σ α) :=
  fun _ _ => ⟨rfl, rfl⟩

theorem blind_broadcast (targets : List String) (m : Message) :
    Blind (broadcast targets m : Work κ σ Unit) := fun _ _ => ⟨rfl, rfl⟩

theorem Blind.bind (hx : Blind x) (hf : ∀ a, Blind (f a)) : Blind (x >>= f) := by
  intro w jobs
  obtain ⟨hrun, heff⟩ := hx w jobs
  rw [runIn_bind, runIn_bind, effects_bind, effects_bind, hrun, heff]
  rcases x.runIn w with ⟨e | a, w'⟩
  · exact ⟨rfl, rfl⟩
  · obtain ⟨hrun', heff'⟩ := hf a w' jobs
    exact ⟨hrun', congrArg (x.effects w ++ ·) heff'⟩

theorem Blind.discard (hx : Blind x) : Blind (discard x) := by
  intro w jobs
  obtain ⟨hrun, heff⟩ := hx w jobs
  rw [runIn_discard, runIn_discard, effects_discard, effects_discard, hrun, heff]
  exact ⟨rfl, rfl⟩

theorem Blind.isolate (hx : Blind x) : Blind (isolate x) := by
  intro w jobs
  obtain ⟨hrun, heff⟩ := hx w jobs
  rw [runIn_isolate, runIn_isolate, effects_isolate, effects_isolate, hrun, heff]
  exact ⟨rfl, rfl⟩

end Liveness.Work
