import Mathlib.Data.Nat.Find
import Mathlib.Logic.Relation
import Liveness.Proofs.Doubling
import Liveness.Proofs.Rising
import Liveness.Stream.Supervisor

/-!
# What a block stream delivers

Over all its attempts to connect, a stream hands on the blocks that rise above all that were read
before them. The attempts take turns at the two addresses, and the waits between them double from
the last attempt that handed on a block.
-/

namespace Liveness

/-- The frames of an attempt. -/
def Attempt.frames : Attempt → List Frame
  | .refused => []
  | .session frames _ => frames

/-- Another attempt follows. -/
def Attempt.GoesOn : Attempt → Prop
  | .session _ .stopped => False
  | _ => True

/-- The address of an attempt. The attempts are counted from zero. -/
def StreamConfig.urlAt (c : StreamConfig) (i : Nat) : String :=
  match c.backupUrl with
  | some backup => if backup ≠ "" ∧ i % 2 = 1 then backup else c.primaryUrl
  | none => c.primaryUrl

/-- The two addresses take turns if there are two. -/
theorem Endpoints.current_turns (c : StreamConfig) (n : Nat) :
    (Endpoints.rotate^[n] (.of c.primaryUrl c.backupUrl)).current = c.urlAt n := by
  have hturns : Endpoints.rotate^[n] (.of c.primaryUrl c.backupUrl) =
      ⟨c.primaryUrl, c.backupUrl.filter (· ≠ ""),
        (c.backupUrl.filter (· ≠ "")).isSome && n % 2 == 1⟩ := by
    induction n with
    | zero => simp [of]
    | succ n ih =>
      rw [Function.iterate_succ_apply', ih]
      generalize c.backupUrl.filter (· ≠ "") = backup
      cases backup with
      | none => rfl
      | some backup =>
        rcases Nat.mod_two_eq_zero_or_one n with heven | hodd
        · simp [rotate, heven, Nat.succ_mod_two_eq_one_iff.mpr heven]
        · simp [rotate, hodd, Nat.succ_mod_two_eq_zero_iff.mpr hodd]
  rw [hturns, current, StreamConfig.urlAt]
  cases c.backupUrl with
  | none => rfl
  | some backup =>
    by_cases hne : backup = ""
    · simp [hne]
    · by_cases hodd : n % 2 = 1
      · simp [hne, hodd, Option.filter]
      · simp [hne, hodd]

namespace Supervisor

/-- The blocks in the frames of attempts, also those that are not handed on. -/
def decoded (attempts : List Attempt) : List Block :=
  (attempts.flatMap Attempt.frames).filterMap blockIn?

/-! ## Frames -/

/-- The stream has read these blocks. -/
structure Heard (bs : List Block) (s : Supervisor) : Prop where
  le : ∀ b ∈ bs, b.height ≤ s.latest
  latest : s.latest = (((rising bs).getLast?).map (·.height)).getD 0

variable {bs : List Block} {s : Supervisor} {f : Frame} {b : Block}

/-- To be above the latest block is to rise above all that were read. -/
theorem Heard.risesAbove_iff (h : Heard bs s) : b.RisesAbove bs ↔ s.latest < b.height := by
  rw [h.latest]
  exact Block.risesAbove_iff

theorem heard_nil (h : s.latest = 0) : Heard [] s := ⟨by simp, h⟩

/-- One frame: its block is handed on exactly if it rises, and then the waits start over. -/
theorem receive_spec (h : Heard bs s) (f : Frame) :
    rising (bs ++ (blockIn? f).toList) = rising bs ++ (s.receive f).1.toList ∧
      Heard (bs ++ (blockIn? f).toList) (s.receive f).2 ∧
      (s.receive f).2.endpoints = s.endpoints ∧
      (s.receive f).2.waits = if (s.receive f).1 = none then s.waits else s.waits.reset := by
  cases hb : blockIn? f with
  | none =>
    simp only [receive, hb, Option.toList_none, List.append_nil]
    exact ⟨trivial, h, trivial, rfl⟩
  | some b =>
    simp only [receive, hb, Option.toList_some, rising_concat]
    by_cases hle : b.height ≤ s.latest
    · have hn : ¬ b.RisesAbove bs := fun hr => absurd (h.risesAbove_iff.mp hr) (by omega)
      rw [if_pos hle, if_neg hn]
      refine ⟨rfl, ⟨fun c hc => ?_, ?_⟩, rfl, rfl⟩
      · rcases List.mem_append.mp hc with hc | hc
        · exact h.le c hc
        · rwa [List.mem_singleton.mp hc]
      · rw [rising_concat, if_neg hn, List.append_nil]
        exact h.latest
    · have hr : b.RisesAbove bs := h.risesAbove_iff.mpr (by omega)
      rw [if_neg hle, if_pos hr]
      refine ⟨rfl, ⟨fun c hc => ?_, ?_⟩, rfl, rfl⟩
      · rcases List.mem_append.mp hc with hc | hc
        · exact (hr.2 c hc).le
        · rw [List.mem_singleton.mp hc]
      · rw [rising_concat, if_pos hr]
        simp

/-- Frames in order: what is handed on are the blocks by which the rising ones become more. -/
theorem receiveAll_spec (h : Heard bs s) (fs : List Frame) :
    rising (bs ++ fs.filterMap blockIn?) = rising bs ++ (s.receiveAll fs).1 ∧
      Heard (bs ++ fs.filterMap blockIn?) (s.receiveAll fs).2 ∧
      (s.receiveAll fs).2.endpoints = s.endpoints ∧
      (s.receiveAll fs).2.waits =
        if (s.receiveAll fs).1 = [] then s.waits else s.waits.reset := by
  induction fs generalizing bs s with
  | nil => simpa [receiveAll] using h
  | cons f rest ih =>
    obtain ⟨hr, hheard, he, hw⟩ := receive_spec h f
    obtain ⟨hr', hheard', he', hw'⟩ := ih hheard
    have hsplit : bs ++ (f :: rest).filterMap blockIn? =
        bs ++ (blockIn? f).toList ++ rest.filterMap blockIn? := by
      cases hb : blockIn? f with
      | none => simp [hb]
      | some b => simp [hb]
    rw [hsplit]
    refine ⟨?_, hheard', he'.trans he, ?_⟩
    · rw [hr', hr, List.append_assoc]
      rfl
    · show (((s.receive f).2.receiveAll rest).2).waits =
        if (s.receive f).1.toList ++ ((s.receive f).2.receiveAll rest).1 = [] then s.waits
        else s.waits.reset
      rw [hw', hw]
      by_cases hrest : ((s.receive f).2.receiveAll rest).1 = []
      · cases (s.receive f).1 <;> simp [hrest]
      · cases (s.receive f).1 <;> simp [hrest, Backoff.reset]

/-! ## Attempts -/

/-- The last attempt up to the `i`th that handed on a block, or the first one if none did. -/
def lastDelivery (visits : List Visit) (i : Nat) : Nat :=
  Nat.findGreatest (fun j => ∃ v ∈ visits[j]?, v.blocks ≠ []) i

/-- The wait after an attempt: doubled for each attempt since the last that handed on a block. -/
def waitAt (c : StreamConfig) (visits : List Visit) (i : Nat) : Nat :=
  min (min c.reconnectInitialMs c.reconnectMaxMs * 2 ^ (i - lastDelivery visits i)) c.reconnectMaxMs

theorem decoded_append (as bs : List Attempt) :
    decoded (as ++ bs) = decoded as ++ decoded bs := by
  simp [decoded]

theorem decoded_singleton (a : Attempt) : decoded [a] = a.frames.filterMap blockIn? := by
  simp [decoded]

/-- An attempt after which another one follows: its frames, and then a wait. -/
theorem visit_of_goesOn {a : Attempt} (ha : a.GoesOn) :
    ∃ sent, s.visit a =
      (⟨s.endpoints.current, sent, (s.receiveAll a.frames).1,
          some (s.receiveAll a.frames).2.rest.1⟩,
        (s.receiveAll a.frames).2.rest.2) := by
  cases a with
  | refused => exact ⟨[], rfl⟩
  | session frames ending =>
    cases ending with
    | closed => exact ⟨textsSent .closed, rfl⟩
    | stalled => exact ⟨textsSent .stalled, rfl⟩
    | stopped => exact ha.elim

theorem run_cons {a : Attempt} (ha : a.GoesOn) (as : List Attempt) :
    s.run (a :: as) =
      ((s.visit a).1 :: ((s.visit a).2.run as).1, ((s.visit a).2.run as).2) := by
  obtain ⟨sent, hv⟩ := visit_of_goesOn (s := s) ha
  rw [run, hv]
  rfl

theorem run_append {as : List Attempt} (has : ∀ a ∈ as, a.GoesOn) (bs : List Attempt) :
    s.run (as ++ bs) = ((s.run as).1 ++ ((s.run as).2.run bs).1, ((s.run as).2.run bs).2) := by
  induction as generalizing s with
  | nil => rfl
  | cons a rest ih =>
    have ha := has a List.mem_cons_self
    have hrest : ∀ b ∈ rest, b.GoesOn := fun b hb => has b (List.mem_cons_of_mem a hb)
    rw [List.cons_append, run_cons ha, run_cons ha, ih hrest]
    rfl

/-- After the attempts these are the visits, and the stream is in this state. -/
structure Reached (c : StreamConfig) (attempts : List Attempt) (visits : List Visit)
    (s : Supervisor) : Prop where
  length : visits.length = attempts.length
  deliveries : deliveries visits = rising (decoded attempts)
  heard : Heard (decoded attempts) s
  endpoints : s.endpoints =
    Endpoints.rotate^[attempts.length] (.of c.primaryUrl c.backupUrl)
  waits : s.waits = .doublingAt c.reconnectInitialMs c.reconnectMaxMs
    (min (min c.reconnectInitialMs c.reconnectMaxMs *
      2 ^ (attempts.length - lastDelivery visits (attempts.length - 1))) c.reconnectMaxMs)
  visit : ∀ i v, visits[i]? = some v → v.url = c.urlAt i ∧ v.wait = some (waitAt c visits i)

variable {c : StreamConfig} {attempts : List Attempt} {visits : List Visit}

theorem reached_start (c : StreamConfig) : Reached c [] [] (start c) where
  length := rfl
  deliveries := rfl
  heard := heard_nil rfl
  endpoints := rfl
  waits := by
    simp [start, lastDelivery, Backoff.doublingAt, Backoff.doubling]
  visit := by simp

theorem Reached.current (h : Reached c attempts visits s) :
    s.endpoints.current = c.urlAt attempts.length := by
  rw [h.endpoints, Endpoints.current_turns]

theorem lastDelivery_le (visits : List Visit) (i : Nat) : lastDelivery visits i ≤ i :=
  Nat.findGreatest_le i

theorem two_mul_waitAt (c : StreamConfig) (visits : List Visit) (i : Nat) :
    min (2 * waitAt c visits i) c.reconnectMaxMs =
      min (min c.reconnectInitialMs c.reconnectMaxMs * 2 ^ (i + 1 - lastDelivery visits i))
        c.reconnectMaxMs := by
  have hpow : 2 ^ (i + 1 - lastDelivery visits i) = 2 ^ (i - lastDelivery visits i) * 2 := by
    rw [← Nat.pow_succ, Nat.sub_add_comm (lastDelivery_le visits i)]
  rw [hpow, ← Nat.mul_assoc, waitAt]
  omega

/-- Later attempts do not count. -/
theorem lastDelivery_concat (v : Visit) {i : Nat} (hi : i < visits.length) :
    lastDelivery (visits ++ [v]) i = lastDelivery visits i := by
  induction i with
  | zero => rfl
  | succ i ih =>
    have hget : (visits ++ [v])[i + 1]? = visits[i + 1]? := List.getElem?_append_left hi
    have ih' := ih (by omega)
    simp only [lastDelivery] at ih' ⊢
    rw [Nat.findGreatest_succ, Nat.findGreatest_succ, hget, ih']

theorem lastDelivery_of_delivered {v : Visit} (hv : v.blocks ≠ []) :
    lastDelivery (visits ++ [v]) visits.length = visits.length :=
  Nat.findGreatest_eq ⟨v, by simp, hv⟩

theorem lastDelivery_of_not_delivered {v : Visit} (hv : v.blocks = []) :
    lastDelivery (visits ++ [v]) visits.length = lastDelivery visits (visits.length - 1) := by
  cases hlen : visits.length with
  | zero => rfl
  | succ n =>
    rw [← lastDelivery_concat v (show n + 1 - 1 < visits.length by omega)]
    refine Nat.findGreatest_of_not ?_
    rintro ⟨u, hu, hne⟩
    rw [← hlen, List.getElem?_concat_length] at hu
    exact hne ((Option.mem_some.mp hu) ▸ hv)

/-- One more attempt. -/
theorem Reached.concat (h : Reached c attempts visits s) (hmax : c.reconnectMaxMs ≤ 2 ^ 53)
    {a : Attempt} (ha : a.GoesOn) :
    Reached c (attempts ++ [a]) (visits ++ [(s.visit a).1]) (s.visit a).2 := by
  obtain ⟨sent, hv⟩ := visit_of_goesOn (s := s) ha
  obtain ⟨hrise, hheard, hends, hwaits⟩ := receiveAll_spec h.heard a.frames
  -- the wait is the first one if a block was handed on, and else the one that was due
  have hwait : (s.receiveAll a.frames).2.waits =
      .doublingAt c.reconnectInitialMs c.reconnectMaxMs
        (waitAt c (visits ++ [(s.visit a).1]) visits.length) := by
    rw [hwaits, h.waits, waitAt, hv]
    split_ifs with hnone
    · rw [lastDelivery_of_not_delivered hnone, h.length]
    · rw [lastDelivery_of_delivered hnone, Backoff.reset_doublingAt]
      simp
  have hle : waitAt c (visits ++ [(s.visit a).1]) visits.length ≤ 2 ^ 53 :=
    (Nat.min_le_right _ _).trans hmax
  have hnext : (s.receiveAll a.frames).2.waits.next =
      (waitAt c (visits ++ [(s.visit a).1]) visits.length,
        .doublingAt c.reconnectInitialMs c.reconnectMaxMs
          (min (2 * waitAt c (visits ++ [(s.visit a).1]) visits.length) c.reconnectMaxMs)) := by
    rw [hwait, Backoff.next_doublingAt hle]
  have hdecoded : decoded (attempts ++ [a]) =
      decoded attempts ++ a.frames.filterMap blockIn? := by
    rw [decoded_append, decoded_singleton]
  have hrest : (s.visit a).2 =
      { (s.receiveAll a.frames).2 with
        endpoints := (s.receiveAll a.frames).2.endpoints.rotate
        waits := (s.receiveAll a.frames).2.waits.next.2 } := by
    rw [hv]
    rfl
  constructor
  · simp [h.length]
  · rw [Supervisor.deliveries, List.flatMap_append, ← Supervisor.deliveries, h.deliveries, hdecoded,
      hrise, hv]
    simp
  · rw [hdecoded, hrest]
    exact ⟨hheard.le, hheard.latest⟩
  · rw [hrest, List.length_append, List.length_singleton, Function.iterate_succ_apply',
      ← h.endpoints, ← hends]
  · rw [hrest, hnext, List.length_append, List.length_singleton, Nat.add_sub_cancel, ← h.length]
    exact congrArg _ (two_mul_waitAt c _ _)
  · intro i v hi
    rcases Nat.lt_or_ge i visits.length with hlt | hge
    · rw [List.getElem?_append_left hlt] at hi
      obtain ⟨hurl, hw⟩ := h.visit i v hi
      refine ⟨hurl, ?_⟩
      rw [hw, waitAt, waitAt, lastDelivery_concat _ hlt]
    · obtain rfl : i = visits.length := by
        have := (List.getElem?_eq_some_iff.mp hi).1
        simp at this
        omega
      rw [List.getElem?_concat_length] at hi
      obtain rfl := Option.some.inj hi
      constructor
      · rw [hv, h.length]
        exact h.current
      · rw [hv]
        show some (s.receiveAll a.frames).2.waits.next.1 = _
        rw [hnext, hv]

theorem reached_run (c : StreamConfig) (hmax : c.reconnectMaxMs ≤ 2 ^ 53) {attempts : List Attempt}
    (hgo : ∀ a ∈ attempts, a.GoesOn) :
    Reached c attempts ((start c).run attempts).1 ((start c).run attempts).2 := by
  induction attempts using List.reverseRecOn with
  | nil => exact reached_start c
  | append_singleton as a ih =>
    have ha : a.GoesOn := hgo a (by simp)
    have has : ∀ b ∈ as, b.GoesOn := fun b hb => hgo b (List.mem_append_left [a] hb)
    rw [run_append has, run_cons ha]
    exact (ih has).concat hmax ha

/-! ## Frames that change nothing -/

/-- A frame without a block that rises above those before it. -/
inductive Noise (before : List Block) : Frame → Prop where
  /-- Not a text. -/
  | other : Noise before .other
  /-- The subscription is accepted. -/
  | accepted {s : String} (h : Payload.streamMessage s = .ok .accepted) : Noise before (.text s)
  /-- A text that cannot be read, or that tells a refusal. -/
  | unreadable {s : String} {e : TransportFailure} (h : Payload.streamMessage s = .error e) :
    Noise before (.text s)
  /-- A block that was passed already. -/
  | replay {s : String} {b : Block} (h : Payload.streamMessage s = .ok (.newBlock b))
    (hb : ¬ b.RisesAbove before) : Noise before (.text s)

theorem Heard.receive_noise (h : Heard bs s) (hf : Noise bs f) : s.receive f = (none, s) := by
  cases hf with
  | other => rfl
  | accepted hs => simp [receive, blockIn?, hs]
  | unreadable hs => simp [receive, blockIn?, hs]
  | replay hs hb =>
    rw [h.risesAbove_iff] at hb
    simp [receive, blockIn?, hs, Nat.le_of_not_lt hb]

/-- Attempts with one more frame that changes nothing. -/
inductive Inserted : List Attempt → List Attempt → Prop where
  /-- The frame stands between `fs` and `gs`. -/
  | mk {pre post : List Attempt} {fs gs : List Frame} {f : Frame} {ending : Ending}
    (hf : Noise (decoded (pre ++ [.session fs ending])) f) :
    Inserted (pre ++ .session (fs ++ gs) ending :: post)
      (pre ++ .session (fs ++ f :: gs) ending :: post)

theorem receiveAll_append (s : Supervisor) (fs gs : List Frame) :
    s.receiveAll (fs ++ gs) = ((s.receiveAll fs).1 ++ ((s.receiveAll fs).2.receiveAll gs).1,
      ((s.receiveAll fs).2.receiveAll gs).2) := by
  induction fs generalizing s with
  | nil => rfl
  | cons f rest ih => simp [receiveAll, ih]

theorem Heard.receiveAll_noise {fs gs : List Frame} (h : Heard bs s)
    (hf : Noise (bs ++ fs.filterMap blockIn?) f) :
    s.receiveAll (fs ++ f :: gs) = s.receiveAll (fs ++ gs) := by
  obtain ⟨-, hheard, -, -⟩ := receiveAll_spec h fs
  rw [receiveAll_append, receiveAll_append, receiveAll, hheard.receive_noise hf]
  rfl

theorem run_inserted (c : StreamConfig) (hmax : c.reconnectMaxMs ≤ 2 ^ 53) {as bs : List Attempt}
    (has : ∀ a ∈ as, a.GoesOn) (h : Inserted as bs) :
    (start c).run bs = (start c).run as ∧ ∀ b ∈ bs, b.GoesOn := by
  obtain ⟨hf⟩ := h
  rename_i pre post fs gs f ending
  have hpre : ∀ a ∈ pre, a.GoesOn := fun a ha => has a (List.mem_append_left _ ha)
  have hthis : (Attempt.session (fs ++ gs) ending).GoesOn := has _ (by simp)
  have hthat : (Attempt.session (fs ++ f :: gs) ending).GoesOn := by
    cases ending <;> exact hthis
  rw [decoded_append, decoded_singleton] at hf
  have hheard := (reached_run c hmax hpre).heard
  have hframes : ((start c).run pre).2.receiveAll (fs ++ f :: gs) =
      ((start c).run pre).2.receiveAll (fs ++ gs) := hheard.receiveAll_noise hf
  have hvisit : ((start c).run pre).2.visit (.session (fs ++ f :: gs) ending) =
      ((start c).run pre).2.visit (.session (fs ++ gs) ending) := by
    simp only [Supervisor.visit, hframes]
  constructor
  · rw [run_append hpre, run_append hpre, run_cons hthat, run_cons hthis, hvisit]
  · intro b hb
    rcases List.mem_append.mp hb with hb | hb
    · exact hpre b hb
    · rcases List.mem_cons.mp hb with rfl | hb
      · exact hthat
      · exact has b (List.mem_append_right pre (List.mem_cons_of_mem _ hb))

/-! ## Runs -/

/-- Whatever the node sends, the stream hands on the blocks that rise above all that were read
before them, in order and once each, and its latest height is that of the last one. Frames without
such a block may be put in anywhere. Every second attempt goes to the backup if there is one, and
the waits double from the last attempt that handed on a block. -/
theorem run_delivers (c : StreamConfig) (attempts : List Attempt)
    (hgo : ∀ a ∈ attempts, a.GoesOn) (hmax : c.reconnectMaxMs ≤ 2 ^ 53) :
    ∃ visits s, (start c).run attempts = (visits, s) ∧ visits.length = attempts.length ∧
      deliveries visits = rising (decoded attempts) ∧
      (deliveries visits).Pairwise (·.height < ·.height) ∧
      s.latest = (((deliveries visits).getLast?).map (·.height)).getD 0 ∧
      (∀ padded, Relation.ReflTransGen Inserted attempts padded →
        (start c).run padded = (visits, s)) ∧
      ∀ i v, visits[i]? = some v → v.url = c.urlAt i ∧ v.wait = some (waitAt c visits i) := by
  have h := reached_run c hmax hgo
  refine ⟨_, _, rfl, h.length, h.deliveries, ?_, ?_, ?_, h.visit⟩
  · rw [h.deliveries]
    exact rising_ascending _
  · rw [h.deliveries]
    exact h.heard.latest
  · intro padded hpadded
    have hboth : (start c).run padded = (start c).run attempts ∧ ∀ a ∈ padded, a.GoesOn := by
      induction hpadded with
      | refl => exact ⟨rfl, hgo⟩
      | tail _ hone ih =>
        obtain ⟨hrun, hgo'⟩ := run_inserted c hmax ih.2 hone
        exact ⟨hrun.trans ih.1, hgo'⟩
    exact hboth.1

/-- A refused attempt, one that hands on two blocks among replays and noise, and three that are
refused again. -/
theorem run_delivers_after_refusal :
    let c : StreamConfig := { StreamConfig.standard with
      primaryUrl := "ws://a", backupUrl := some "ws://b", reconnectMaxMs := 1500 }
    let block (height : String) : Frame := .text ("\x7b\"result\":\x7b\"data\":\x7b\"value\":" ++
      "\x7b\"block\":\x7b\"header\":\x7b\"height\":" ++ height ++ "\x7d\x7d\x7d\x7d\x7d\x7d")
    let attempts : List Attempt := [.refused,
      .session [.text "\x7b\"result\":\x7b\x7d\x7d", block "5", .text "?", block "4", block "7"]
        .closed,
      .refused, .refused, .refused]
    let visits := ((start c).run attempts).1
    (∀ a ∈ attempts, a.GoesOn) ∧ c.reconnectMaxMs ≤ 2 ^ 53 ∧
      visits.length = 5 ∧ (deliveries visits).map (·.height) = [5, 7] ∧
      (∀ v ∈ visits[2]?, v.url = "ws://a" ∧ v.wait = some 1000) ∧
      ∀ v ∈ visits[3]?, v.url = "ws://b" ∧ v.wait = some 1500 := by
  intro c block attempts visits
  have hgo : ∀ a ∈ attempts, a.GoesOn := by simp [attempts, Attempt.GoesOn]
  have hmax : c.reconnectMaxMs ≤ 2 ^ 53 := by decide
  obtain ⟨visits', s, hrun, hlen, hdel, -, -, -, hvisit⟩ := run_delivers c attempts hgo hmax
  obtain rfl : visits = visits' := by simp only [visits, hrun]
  obtain ⟨hrising, hwait2, hwait3⟩ : (rising (decoded attempts)).map (·.height) = [5, 7] ∧
      waitAt c visits 2 = 1000 ∧ waitAt c visits 3 = 1500 := by
    decide +kernel
  refine ⟨hgo, hmax, hlen, by rw [hdel, hrising], fun v hv => ?_, fun v hv => ?_⟩
  · rw [← hwait2]
    exact hvisit 2 v hv
  · rw [← hwait3]
    exact hvisit 3 v hv

end Supervisor
end Liveness
