import Mathlib.Tactic.Common
import Liveness.Json.Printer
import Liveness.Node.Client
import Liveness.Node.Script

/-!
# Tries of queries

A query is sent until a reply is final: one that came in full and tells of success or holds a
refusal. What it came to is told by the last reply alone, which is the first final one if there is
one among the replies that the tries can reach.
-/

namespace Liveness

open Payload

variable {α : Type} {r : Reply} {replies : List Reply} {limit m n : Nat} {url : Url}
  {timeoutMs : Nat}

/-! ## Queries -/

/-- What a node is asked about a chain, by what is told. -/
inductive Query : Type → Type
  /-- All validators. -/
  | validators : Query (List Snapshot)
  /-- One validator, now or at a height. -/
  | validator (operator : String) (height : Option Nat) : Query Snapshot
  /-- The totals of staked tokens, now or at a height. -/
  | stakingPool (height : Option Nat) : Query StakingPool
  /-- The block at a height. -/
  | block (height : Nat) : Query Block
  /-- The parameters for slashing. -/
  | slashingParams : Query SlashingParams
  /-- The transactions of a block. -/
  | transactions (height : Nat) : Query (List Transaction)
  /-- The latest height. -/
  | latestHeight : Query Nat

namespace Query

variable {ν : Type} [Node ν]

/-- Asks the node of a session. -/
def ask : Query α → Session ν → Except Failure α × Session ν
  | .validators, s => Chain.validators s
  | .validator operator height, s => Chain.validator s operator height
  | .stakingPool height, s => Chain.stakingPool s height
  | .block height, s => s.blockAt height
  | .slashingParams, s => Chain.slashingParams s
  | .transactions height, s => Chain.transactions s height
  | .latestHeight, s => s.latestHeight

/-- The address that is asked. -/
def address (c : Client) : Query α → String
  | .validators => c.lcdUrl ++ "/staking/validators"
  | .validator operator height =>
    c.lcdUrl ++ Session.atHeight s!"/staking/validators/{operator}" height
  | .stakingPool height => c.lcdUrl ++ Session.atHeight "/staking/pool" height
  | .block height => c.rpcUrl ++ s!"/block?height={height}"
  | .slashingParams => c.lcdUrl ++ "/slashing/parameters"
  | .transactions height => c.rpcUrl ++ Session.searchPath height
  | .latestHeight => c.rpcUrl ++ "/status"

/-- What stands in the envelope of an answer without a refusal. A remote call must have a result. -/
def payload (v : Json) : Query α → Read Json
  | .block _ | .transactions _ | .latestHeight => orDefect (v.get? "result") .noResult
  | _ => .ok ((v.get? "result").getD v)

/-- Reads what stands in the envelope. -/
def read : Query α → Json → Read α
  | .validators => snapshots
  | .validator _ _ => snapshot
  | .stakingPool _ => Payload.stakingPool
  | .block _ => blockResult
  | .slashingParams => Payload.slashingParams
  | .transactions _ => Payload.transactions
  | .latestHeight => statusHeight

/-- Opens the envelope of an answer. -/
def unwrap (q : Query α) (v : Json) : Read Json :=
  match error? v with
  | some err => .error (refusal err)
  | none => q.payload v

theorem ask_eq (q : Query α) (s : Session ν) :
    q.ask s = s.query (q.address s.client) q.unwrap q.read := by
  cases q <;> rfl

end Query

/-! ## Replies -/

/-- After the reply a query is not sent again. -/
def Reply.Final : Reply → Prop
  | .answer status body => isSuccess status = true ∨
    ∃ v err, Json.parse? body = some v ∧ v.get? "error" = some err ∧ err.isNull = false
  | .dropped | .silent | .broken _ | .stalled _ => False

/-- What a query comes to if this is the last reply. -/
def Query.told (q : Query α) (url : String) (timeoutMs : Nat) : Reply → Except Failure α
  | .silent => .error (.timeout timeoutMs)
  | .dropped => .error (.chain s!"HTTP error: {lostRequest url}")
  | .broken _ | .stalled _ => .error (.chain s!"HTTP error: {lostBody}")
  | .answer status body =>
    match Json.parse? body with
    | none =>
      if isSuccess status then .error (.decode unreadable.message)
      else .error (.chain s!"HTTP error: HTTP {status}: {body}")
    | some v =>
      match error? v with
      | some err => .error (.chain (refusal err).message)
      | none =>
        if isSuccess status then ((q.payload v).bind q.read).mapError TransportFailure.toFailure
        else .error (.chain s!"HTTP error: HTTP {status}: {body}")

namespace Client

theorem exists_error?_iff {v : Json} :
    (error? v).isSome = true ↔ ∃ err, v.get? "error" = some err ∧ err.isNull = false := by
  rw [error?]
  cases v.get? "error" with
  | none => simp
  | some err => cases hnull : err.isNull <;> simp [Option.filter, hnull]

/-- An answer is read whatever its status, but without success it must hold a refusal. -/
theorem readReply_answer (url : String) (timeoutMs status : Nat) (body : String) :
    readReply url timeoutMs (.answer status body) =
      match Json.parse? body with
      | none => .error (if isSuccess status then unreadable else .http s!"HTTP {status}: {body}")
      | some v =>
        if isSuccess status || (error? v).isSome then .ok v
        else .error (.http s!"HTTP {status}: {body}") := by
  rw [readReply]
  cases hok : isSuccess status with
  | true => cases hparse : Json.parse? body <;> simp [parse, hparse]
  | false =>
    cases hparse : Json.parse? body with
    | none => simp
    | some v => cases herr : (error? v).isSome <;> simp [Option.filter, herr]

/-- A query is sent again exactly after a reply that is not final. -/
theorem not_final_iff (url : String) (timeoutMs : Nat) :
    ¬ r.Final ↔ ∃ e, readReply url timeoutMs r = .error e ∧ e.isTransient = true := by
  cases r with
  | silent => exact ⟨fun _ => ⟨_, rfl, rfl⟩, fun _ h => h⟩
  | dropped => exact ⟨fun _ => ⟨_, rfl, rfl⟩, fun _ h => h⟩
  | broken status => exact ⟨fun _ => ⟨_, rfl, rfl⟩, fun _ h => h⟩
  | stalled status => exact ⟨fun _ => ⟨_, rfl, rfl⟩, fun _ h => h⟩
  | answer status body =>
    rw [readReply_answer, Reply.Final]
    cases hparse : Json.parse? body with
    | none =>
      cases isSuccess status <;> simp [unreadable, TransportFailure.isTransient]
    | some v =>
      have hrefused : (∃ v' err, some v = some v' ∧ v'.get? "error" = some err ∧
          err.isNull = false) ↔ (error? v).isSome = true := by
        rw [exists_error?_iff]
        constructor
        · rintro ⟨v', err, hv, herr⟩
          cases hv
          exact ⟨err, herr⟩
        · rintro ⟨err, herr⟩
          exact ⟨v, err, rfl, herr⟩
      rw [hrefused]
      cases isSuccess status <;> cases herr : (error? v).isSome <;>
        simp [herr, TransportFailure.isTransient]

theorem not_transient_of_final (h : r.Final) :
    ¬ ∃ e, readReply url.text timeoutMs r = .error e ∧ e.isTransient = true :=
  fun htransient => (not_final_iff url.text timeoutMs).mpr htransient h

end Client

theorem Payload.toFailure_refusal (err : Json) :
    (refusal err).toFailure = .chain (refusal err).message := by
  cases err <;> rfl

/-- The last reply alone tells what the query comes to. -/
theorem Query.told_eq (q : Query α) (url : String) (timeoutMs : Nat) (r : Reply) :
    (((Client.readReply url timeoutMs r).bind q.unwrap).bind q.read).mapError
      TransportFailure.toFailure = q.told url timeoutMs r := by
  cases r with
  | silent => rfl
  | dropped => rfl
  | broken status => rfl
  | stalled status => rfl
  | answer status body =>
    rw [Client.readReply_answer, Query.told]
    cases hparse : Json.parse? body with
    | none => cases isSuccess status <;> rfl
    | some v =>
      cases herr : error? v with
      | none =>
        have hunwrap : q.unwrap v = q.payload v := by rw [Query.unwrap, herr]
        cases isSuccess status with
        | false =>
          simp only [herr, Bool.false_or, Option.isSome_none]
          rfl
        | true => simp [herr, Except.bind, hunwrap]
      | some err =>
        have hunwrap : q.unwrap v = .error (refusal err) := by rw [Query.unwrap, herr]
        have hfailure := Payload.toFailure_refusal err
        simp [herr, Except.bind, hunwrap, Except.mapError, hfailure]

/-! ## Scripts -/

namespace Script

/-- The reply with this number from 0 on; the last one comes again and again. -/
def replyAt (replies : List Reply) (i : Nat) : Reply :=
  (replies[i]?.or replies.getLast?).getD .dropped

theorem nextReply_fst (replies : List Reply) : (nextReply replies).1 = replyAt replies 0 := by
  rcases replies with _ | ⟨r, _ | ⟨r', rest⟩⟩ <;> rfl

theorem replyAt_nextReply (replies : List Reply) (i : Nat) :
    replyAt (nextReply replies).2 i = replyAt replies (i + 1) := by
  rcases replies with _ | ⟨r, _ | ⟨r', rest⟩⟩
  · rfl
  · cases i <;> rfl
  · show replyAt (r' :: rest) i = replyAt (r :: r' :: rest) (i + 1)
    rw [replyAt, replyAt, List.getElem?_cons_succ, List.getLast?_cons_cons]

/-- A query that may be sent again `limit` times is sent again `n` times: until the first final
reply, or as often as it may. -/
structure Ends (replies : List Reply) (limit n : Nat) : Prop where
  /-- It is not sent more often than it may. -/
  le : n ≤ limit
  /-- The replies before the last one are not final. -/
  early : ∀ i < n, ¬ (replyAt replies i).Final
  /-- The last reply is final, or there are no more tries. -/
  last : (replyAt replies n).Final ∨ n = limit

theorem Ends.unique (h : Ends replies limit n) (h' : Ends replies limit m) : n = m := by
  rcases Nat.lt_trichotomy n m with hlt | heq | hgt
  · rcases h.last with hfinal | hn
    · exact absurd hfinal (h'.early n hlt)
    · have := h'.le
      omega
  · exact heq
  · rcases h'.last with hfinal | hm
    · exact absurd hfinal (h.early m hgt)
    · have := h.le
      omega

theorem Ends.of_final (h : (replyAt replies 0).Final) : Ends replies limit 0 :=
  ⟨Nat.zero_le _, nofun, Or.inl h⟩

theorem Ends.succ (hfirst : ¬ (replyAt replies 0).Final) (h : Ends (nextReply replies).2 limit n) :
    Ends replies (limit + 1) (n + 1) := by
  refine ⟨Nat.succ_le_succ h.le, ?_, ?_⟩
  · intro i hi
    cases i with
    | zero => exact hfirst
    | succ i =>
      rw [← replyAt_nextReply]
      exact h.early i (Nat.lt_of_succ_lt_succ hi)
  · rw [← replyAt_nextReply]
    exact h.last.imp id (congrArg (· + 1))

end Script

/-! ## Tries -/

namespace Client

section

variable {ν : Type} [Node ν] {address : String} {node node' : ν} {e : TransportFailure}

/-- A try that does not fail for now is the last one. -/
theorem exchange_of_final {outcome : Except TransportFailure Json}
    (h : attempt address timeoutMs node = (outcome, node'))
    (hfinal : ¬ ∃ e, outcome = .error e ∧ e.isTransient = true) (further : Nat) (waits : Backoff) :
    exchange address timeoutMs further waits node = ⟨outcome, [], node'⟩ := by
  rw [exchange.eq_def, h]
  cases outcome with
  | ok v => rfl
  | error e =>
    have he : ¬ e.isTransient = true := fun he => hfinal ⟨e, rfl, he⟩
    exact if_neg he

/-- So is one that fails when there are no more tries. -/
theorem exchange_zero (h : attempt address timeoutMs node = (.error e, node')) (waits : Backoff) :
    exchange address timeoutMs 0 waits node = ⟨.error e, [], node'⟩ := by
  rw [exchange, h]
  exact ite_self _

/-- After a try that fails for now comes a wait, and then another try. -/
theorem exchange_succ (h : attempt address timeoutMs node = (.error e, node'))
    (he : e.isTransient = true) (further : Nat) (waits : Backoff) :
    exchange address timeoutMs (further + 1) waits node =
      { exchange address timeoutMs further waits.next.2 node' with
        waits := waits.next.1 ::
          (exchange address timeoutMs further waits.next.2 node').waits } := by
  rw [exchange, h]
  exact if_pos he

/-- To an address that no request can be sent to nothing is sent, however often it is tried. -/
theorem exchange_of_unsendable {reason : Unsendable}
    (h : Target.ofAddress address = .error reason) (timeoutMs further : Nat) (waits : Backoff)
    (node : ν) :
    exchange address timeoutMs further waits node =
      ⟨.error (.http reason.message), waits.take further, node⟩ := by
  have hattempt : attempt address timeoutMs node = (.error (.http reason.message), node) := by
    rw [attempt, h]
  induction further generalizing waits with
  | zero => exact exchange_zero hattempt waits
  | succ further ih => rw [exchange_succ hattempt rfl, ih, Backoff.take]

end

/-- One try reads the next reply. -/
theorem attempt_of_script {address : String} (hurl : Target.ofAddress address = .ok url)
    (timeoutMs : Nat) (node : Script) :
    attempt address timeoutMs node =
      (readReply url.text timeoutMs (Script.replyAt node.replies 0),
        ⟨(Script.nextReply node.replies).2, node.requests ++ [⟨url.text, none⟩]⟩) := by
  rw [attempt, hurl, ← Script.nextReply_fst]
  rfl

/-- A query is sent until its last reply and waits the first delays in between. -/
theorem exchange_of_script {address : String} (hurl : Target.ofAddress address = .ok url)
    (timeoutMs further : Nat) (waits : Backoff) (node : Script) :
    ∃ n, Script.Ends node.replies further n ∧
      let x := exchange address timeoutMs further waits node
      x.outcome = readReply url.text timeoutMs (Script.replyAt node.replies n) ∧
      x.waits = waits.take n ∧
      x.node.requests = node.requests ++ List.replicate (n + 1) ⟨url.text, none⟩ := by
  induction further generalizing waits node with
  | zero =>
    have hattempt := attempt_of_script hurl timeoutMs node
    refine ⟨0, ⟨Nat.le_refl 0, nofun, Or.inr rfl⟩, ?_⟩
    by_cases hfinal : (Script.replyAt node.replies 0).Final
    · rw [exchange_of_final hattempt (not_transient_of_final hfinal)]
      exact ⟨rfl, rfl, rfl⟩
    · obtain ⟨e, he, -⟩ := (not_final_iff url.text timeoutMs).mp hfinal
      rw [he] at hattempt
      rw [exchange_zero hattempt, he]
      exact ⟨rfl, rfl, rfl⟩
  | succ further ih =>
    have hattempt := attempt_of_script hurl timeoutMs node
    by_cases hfinal : (Script.replyAt node.replies 0).Final
    · rw [exchange_of_final hattempt (not_transient_of_final hfinal)]
      exact ⟨0, .of_final hfinal, rfl, rfl, rfl⟩
    · obtain ⟨e, he, htransient⟩ := (not_final_iff url.text timeoutMs).mp hfinal
      rw [he] at hattempt
      rw [exchange_succ hattempt htransient]
      obtain ⟨n, hends, houtcome, hwaits, hrequests⟩ := ih waits.next.2
        ⟨(Script.nextReply node.replies).2, node.requests ++ [⟨url.text, none⟩]⟩
      refine ⟨n + 1, hends.succ hfinal, ?_, ?_, ?_⟩
      · rw [← Script.replyAt_nextReply]
        exact houtcome
      · rw [Backoff.take, ← hwaits]
      · refine hrequests.trans ?_
        rw [List.append_assoc, List.singleton_append, ← List.replicate_succ]

end Client

/-- A query to an address that a request can be sent to is sent until the first final reply, or as
often as it may; in between it waits the first delays of its retry settings. What it comes to is
told by the last reply alone; it is left open here what a query comes to whose last reply stalls in
its body. To any other address nothing is sent, and after all waits the query fails for the reason
why nothing can be sent. -/
theorem Query.ask_of_script (q : Query α) (s : Session Script) :
    let retry := s.client.retry
    let replies := s.node.replies
    (∀ url, Target.ofAddress (q.address s.client) = .ok url →
      ∃ n, Script.Ends replies retry.maxRetries n ∧
        (∀ m, Script.Ends replies retry.maxRetries m → m = n) ∧
        ((∀ status, Script.replyAt replies n ≠ .stalled status) →
          (q.ask s).1 = q.told url.text s.client.timeoutMs (Script.replyAt replies n)) ∧
        (q.ask s).2.node.requests =
          s.node.requests ++ List.replicate (n + 1) ⟨url.text, none⟩ ∧
        (q.ask s).2.waits = s.waits ++ retry.backoff.take n) ∧
    ∀ reason, Target.ofAddress (q.address s.client) = .error reason →
      (q.ask s).1 = .error (.chain s!"HTTP error: {reason.message}") ∧
        (q.ask s).2.node = s.node ∧
        (q.ask s).2.waits = s.waits ++ retry.backoff.take retry.maxRetries := by
  intro retry replies
  rw [Query.ask_eq]
  constructor
  · intro url hurl
    obtain ⟨n, hends, houtcome, hwaits, hrequests⟩ := Client.exchange_of_script hurl
      s.client.timeoutMs retry.maxRetries retry.backoff s.node
    refine ⟨n, hends, fun m hm => hm.unique hends, fun _ => ?_, hrequests,
      congrArg (s.waits ++ ·) hwaits⟩
    rw [← Query.told_eq, ← houtcome]
    rfl
  · intro reason hreason
    have hexchange := Client.exchange_of_unsendable hreason s.client.timeoutMs retry.maxRetries
      retry.backoff s.node
    rw [Session.query, Session.get, hexchange]
    exact ⟨rfl, rfl, rfl⟩

/-! ## A script of three replies -/

namespace Script

/-- The answer of a node whose latest block is at a height. -/
def status (height : Nat) : Reply :=
  .answer 200 (Json.object [("result", .object [("sync_info", .object [
    ("latest_block_height", .text (toString height))])])]).print

/-- A client whose remote calls go to an address. -/
def client (rpcUrl : String) : Client := .of "http://127.0.0.1:1317" rpcUrl HttpConfig.standard

/-- A client at work with a node that has these replies. -/
def session (rpcUrl : String) (replies : List Reply) : Session Script :=
  ⟨client rpcUrl, ⟨replies, []⟩, []⟩

theorem final_status : (status 7).Final := Or.inl rfl

theorem not_final_outage : ¬ (Reply.answer 502 "bad gateway").Final := by
  have hnone : (Json.parse? "bad gateway").isSome = false := by decide +kernel
  rintro (hok | ⟨v, err, hparse, -⟩)
  · cases hok
  · rw [hparse] at hnone
    cases hnone

theorem exists_target :
    ∃ url, Target.ofAddress (Query.latestHeight.address (client "http://127.0.0.1:26657")) =
      .ok url ∧ url.text = "http://127.0.0.1:26657/status" := by
  have htext : (Target.ofAddress (Query.latestHeight.address
      (client "http://127.0.0.1:26657"))).toOption.map (·.text) =
      some "http://127.0.0.1:26657/status" := by
    decide +kernel
  cases hurl : Target.ofAddress (Query.latestHeight.address (client "http://127.0.0.1:26657")) with
  | error reason =>
    rw [hurl] at htext
    cases htext
  | ok url =>
    rw [hurl] at htext
    exact ⟨url, rfl, Option.some.inj htext⟩

end Script

/-- A failed answer and a timeout are waited out; the third reply tells the height. -/
theorem Query.ask_of_script_third :
    let s := Script.session "http://127.0.0.1:26657"
      [.answer 502 "bad gateway", .silent, Script.status 7]
    (Query.latestHeight.ask s).1 = .ok 7 ∧
      (Query.latestHeight.ask s).2.node.requests =
        List.replicate 3 ⟨"http://127.0.0.1:26657/status", none⟩ ∧
      (Query.latestHeight.ask s).2.waits = [105, 210] := by
  intro s
  obtain ⟨url, hurl, htext⟩ := Script.exists_target
  have hends : Script.Ends s.node.replies s.client.retry.maxRetries 2 := by
    refine ⟨by decide, fun i hi => ?_, Or.inl Script.final_status⟩
    match i, hi with
    | 0, _ => exact Script.not_final_outage
    | 1, _ => exact id
  obtain ⟨n, -, hunique, htold, hrequests, hwaits⟩ :=
    (Query.ask_of_script .latestHeight s).1 url hurl
  obtain rfl := hunique 2 hends
  rw [htext] at htold hrequests
  have hheight : Query.latestHeight.told "http://127.0.0.1:26657/status" s.client.timeoutMs
      (Script.status 7) = .ok 7 := by
    decide +kernel
  have hdelays : s.client.retry.backoff.take 2 = [105, 210] := by decide +kernel
  exact ⟨(htold nofun).trans hheight, hrequests, hwaits.trans hdelays⟩

/-- A success that breaks off in its body is asked for again. To an address that is none nothing is
sent, although the reply that the node would give is final. -/
theorem Query.asked_again_or_never :
    let broken := Script.session "http://127.0.0.1:26657" [.broken 200, Script.status 7]
    let astray := Script.session "http://127.0.0.1:26657:99" [Script.status 7]
    (isSuccess 200 = true ∧ (Query.latestHeight.ask broken).2.node.requests.length = 2) ∧
      (Script.replyAt astray.node.replies 0).Final ∧
        (Query.latestHeight.ask astray).2.node.requests = [] ∧
        (Query.latestHeight.ask astray).1 ≠ .ok 7 := by
  refine ⟨⟨rfl, ?_⟩, Script.final_status, ?_, ?_⟩ <;> decide +kernel

end Liveness
