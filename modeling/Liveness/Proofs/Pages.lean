import Liveness.Node.Client
import Liveness.Proofs.Columns
import Liveness.Proofs.Scan

/-!
# Transactions of a block, page by page

A node answers a search with one page of what it holds, together with how much there is. The client
asks once and names no page, so it gets the first page whatever there is: the block is read whole
exactly if it fits one page, and what only the transactions after that page tell is never seen.
-/

namespace Liveness

open Work

/-! ## Nodes that answer page by page -/

namespace Search

/-- The address of a search for the transactions of a block, which may name a page. -/
def address (rpcUrl : String) (height : Nat) (page : Option Nat) : String :=
  rpcUrl ++ Session.searchPath height ++ page.elim "" fun k => s!"&page={k}"

/-- A page of what is held; the first one has the number one. -/
def page {α : Type} (held : List α) (k : Nat) : List α :=
  (held.drop ((k - 1) * Session.pageSize)).take Session.pageSize

/-- How many pages there are; of nothing there is an empty one. -/
def pages {α : Type} (held : List α) : Nat := (held.length - 1) / Session.pageSize + 1

/-- The body of an answer shows a page of what is held, and how much that is. -/
def Shows (body : Json) (held : List Json) (k : Nat) : Prop :=
  Payload.error? body = none ∧
    ∃ result, body.get? "result" = some result ∧
      result.get? "txs" = some (.array (page held k)) ∧
      result.get? "total_count" = some (.text (toString held.length))

end Search

/-- At this address a node holds these transactions of a block. It shows the page that is asked for,
and the first one if none is named. -/
def Node.Paged (ν : Type) [Node ν] (rpcUrl : String) (height : Nat) (held : List Json) : Prop :=
  ∀ (n : ν) (page : Option Nat), (∀ k ∈ page, 1 ≤ k ∧ k ≤ Search.pages held) →
    ∃ url status body v, Target.ofAddress (Search.address rpcUrl height page) = .ok url ∧
      (Node.get n url.text).1 = .answer status body ∧ isSuccess status = true ∧
      Json.parse? body = some v ∧ Search.Shows v held (page.getD 1)

/-! ## What the client gets -/

section Client

variable {ν : Type} [Node ν] {rpcUrl : String} {height : Nat} {held : List Json}

theorem Search.transactions_of_shows {body : Json} {k : Nat} (h : Search.Shows body held k) :
    (Payload.rpcResult body).bind Payload.transactions =
      .ok ((Search.page held k).map Payload.transaction) := by
  obtain ⟨herror, result, hresult, htxs, -⟩ := h
  have hrpc : Payload.rpcResult body = .ok result := by
    rw [Payload.rpcResult, herror]
    simp only [hresult]
    rfl
  rw [hrpc]
  show (Payload.orDefect ((result.get? "txs").bind (·.items?)) .noTransactions).bind _ = _
  rw [htxs]
  rfl

/-- An address that answers with a document is asked once. -/
theorem Session.get_of_answer {s : Session ν} {address : String} {url : Url} {status : Nat}
    {body : String} {v : Json} (hurl : Target.ofAddress address = .ok url)
    (hget : (Node.get s.node url.text).1 = .answer status body) (hok : isSuccess status = true)
    (hparse : Json.parse? body = some v) : (s.get address).1 = .ok v := by
  have hread : Client.readReply url.text s.client.timeoutMs (.answer status body) = .ok v := by
    rw [Client.readReply, if_pos hok, Payload.parse, hparse]
  have hattempt : Client.attempt address s.client.timeoutMs s.node =
      (.ok v, (Node.get s.node url.text).2) := by
    simp only [Client.attempt, hurl, hget, hread]
  rw [Session.get]
  unfold Client.exchange
  rw [hattempt]

/-- The client asks once, for the first page. -/
theorem Session.transactions_of_paged (h : Node.Paged ν rpcUrl height held) {s : Session ν}
    (hs : s.client.rpcUrl = rpcUrl) :
    (Chain.transactions s height).1 =
      .ok ((held.take Session.pageSize).map Payload.transaction) := by
  -- the address of the client names no page
  obtain ⟨url, status, body, v, hurl, hget, hok, hparse, hshows⟩ := h s.node none nofun
  have haddress : Search.address rpcUrl height none =
      s.client.rpcUrl ++ Session.searchPath height := by
    rw [hs, Search.address, Option.elim_none, String.append_empty]
  rw [haddress] at hurl
  have hanswer := Session.get_of_answer hurl hget hok hparse
  have hpage : Search.page held ((none : Option Nat).getD 1) = held.take Session.pageSize := by
    simp [Search.page]
  have htxs := Search.transactions_of_shows hshows
  have hrpc : Chain.transactions s height =
      s.rpc (Session.searchPath height) Payload.transactions := rfl
  rw [hrpc, Session.rpc, Session.query]
  generalize s.get (s.client.rpcUrl ++ Session.searchPath height) = x at hanswer
  obtain ⟨r, s'⟩ := x
  dsimp only at hanswer ⊢
  rw [hanswer, Except.bind, htxs, hpage, Except.mapError]

/-- Of a block that is held page by page, a scan sees what the transactions of the first page tell.
That is the whole block if it has one page, and else all its mutations only if those that are told
after the first page are told on it as well. -/
theorem Registry.scan_reads_first_page (h : Node.Paged ν rpcUrl height held)
    (accountPrefix : String) {w : World (Session ν) Memory} (hw : w.chain.client.rpcUrl = rpcUrl) :
    let all := held.map Payload.transaction
    let shown := all.take Session.pageSize
    let ms := Mutation.ofTransactions shown accountPrefix
    let answered := Chain.answers (Chain.transactions w.chain height).2 (ms.map Mutation.operator)
    (Chain.transactions w.chain height).1 = .ok shown ∧
      ((Chain.transactions w.chain height).1 = .ok all ↔ held.length ≤ Session.pageSize) ∧
      ((scan accountPrefix height).runIn w).1 =
        .ok (Applied.ofAnswers accountPrefix ms answered.1) ∧
      ((∀ m ∈ Mutation.ofTransactions all accountPrefix, m ∈ ms) ↔
        ∀ tx ∈ all.drop Session.pageSize, ∀ m,
          tx.Tells (Address.operatorHrp accountPrefix) m → m ∈ ms) := by
  intro all shown ms answered
  have hshown : (Chain.transactions w.chain height).1 = .ok shown := by
    rw [Session.transactions_of_paged h hw, List.map_take]
  have hwhole : shown = all ↔ held.length ≤ Session.pageSize := by
    rw [List.take_eq_self_iff, List.length_map]
  refine ⟨hshown, ?_, ?_, ?_⟩
  · rw [hshown, Except.ok.injEq, hwhole]
  · rw [runIn_scan hshown]
  · constructor
    · intro hall tx htx m hm
      exact hall m (Mutation.mem_ofTransactions.mpr ⟨tx, List.mem_of_mem_drop htx, hm⟩)
    · intro hlater m hm
      obtain ⟨tx, htx, htells⟩ := Mutation.mem_ofTransactions.mp hm
      rw [← List.take_append_drop Session.pageSize all] at htx
      rcases List.mem_append.mp htx with htx | htx
      · exact Mutation.mem_ofTransactions.mpr ⟨tx, htx, htells⟩
      · exact hlater tx htx m htells

end Client

/-! ## A block of two pages -/

/-- A node that holds these transactions of one block and answers any question with a page of
them. -/
structure Archive (held : List Json) where
  deriving DecidableEq, Repr

namespace Archive

variable {held : List Json} {rpcUrl : String} {height : Nat}

/-- The page that an address names at its end, or else the first one. -/
def pageOf (url : String) : Nat :=
  let cs := url.toList.reverse
  if "&page=".toList.reverse.isPrefixOf (cs.dropWhile Char.isDigit) then
    Nat.ofDigitChars 10 (cs.takeWhile Char.isDigit).reverse 0
  else 1

/-- The body of the answer with a page. -/
def body (held : List Json) (k : Nat) : Json :=
  .object [("jsonrpc", .text "2.0"), ("id", .ofNat 1),
    ("result", .object [
      ("txs", .array (Search.page held k)), ("total_count", .text (toString held.length))])]

instance : Node (Archive held) where
  get n url := (.answer 200 (body held (pageOf url)).print, n)
  post n _ _ := (.dropped, n)

/-- The body is read back if what is held is plain and leaves room for the body around it. -/
theorem parse?_body (hheld : ∀ v ∈ held, v.Plain ∧ v.Regular (Json.maxDepth - 3)) (k : Nat) :
    Json.parse? (body held k).print = some (body held k) := by
  have hpage : ∀ v ∈ Search.page held k, v.Plain ∧ v.Regular (Json.maxDepth - 3) := fun v hv =>
    hheld v (List.mem_of_mem_drop (List.mem_of_mem_take hv))
  have hplain : Json.PlainItems (Search.page held k) :=
    Json.plainItems_iff.mpr fun v hv => (hpage v hv).1
  have hregular : Json.RegularItems (Json.maxDepth - 3) (Search.page held k) :=
    Json.regularItems_iff.mpr fun v hv => (hpage v hv).2
  refine Json.value_print ?_ ?_
  · simpa [body, Json.Plain, Json.PlainMembers, Json.ofNat, Bound.word64] using hplain
  · simpa [body, Json.Regular, Json.RegularMembers, Json.maxDepth, Json.ofNat] using hregular

theorem shows_body (held : List Json) (k : Nat) : Search.Shows (body held k) held k :=
  ⟨rfl, _, rfl, rfl, rfl⟩

/-- An archive is asked for its pages where the page that is named in an address can be told. -/
theorem paged (hheld : ∀ v ∈ held, v.Plain ∧ v.Regular (Json.maxDepth - 3))
    (haddress : ∀ page : Option Nat, (∀ k ∈ page, 1 ≤ k ∧ k ≤ Search.pages held) →
      ∃ url, Target.ofAddress (Search.address rpcUrl height page) = .ok url ∧
        pageOf url.text = page.getD 1) :
    Node.Paged (Archive held) rpcUrl height held := by
  intro n page hpage
  obtain ⟨url, hurl, hnamed⟩ := haddress page hpage
  refine ⟨url, 200, (body held (page.getD 1)).print, body held (page.getD 1), hurl, ?_, rfl,
    parse?_body hheld _, shows_body held _⟩
  show Reply.answer 200 (body held (pageOf url.text)).print = _
  rw [hnamed]

/-- The transaction in which a validator leaves jail, with its events in one list. -/
def unjailing (operator : String) : Json :=
  .object [("tx_result", .object [("code", .ofNat 0), ("events", .array [
    .object [("type", .text "message"), ("attributes", .array [
      .object [("key", .text "action"), ("value", .text "unjail")],
      .object [("key", .text "sender"), ("value", .text operator)]])]])])]

/-- A block with one transaction more than a page holds; the last one frees a validator. -/
def crowded : List Json :=
  List.replicate Session.pageSize (.object []) ++ [unjailing Alpha.operator]

theorem pages_crowded : Search.pages crowded = 2 := rfl

/-- A client of the archive of this block. -/
def session : Session (Archive crowded) :=
  ⟨Client.of "http://n" "http://n" HttpConfig.standard, ⟨⟩, []⟩

theorem paged_crowded : Node.Paged (Archive crowded) session.client.rpcUrl 9 crowded := by
  refine paged ?_ ?_
  · intro v hv
    rcases List.mem_append.mp hv with hv | hv
    · rw [List.eq_of_mem_replicate hv]
      simp [Json.Plain, Json.PlainMembers, Json.Regular, Json.RegularMembers, Json.maxDepth]
    · rw [List.mem_singleton.mp hv]
      simp [unjailing, Json.Plain, Json.PlainMembers, Json.PlainItems, Json.Regular,
        Json.RegularMembers, Json.RegularItems, Json.maxDepth, Json.ofNat, Bound.word64]
  · have hnamed : ∀ page ∈ [none, some 1, some 2],
        (Target.ofAddress (Search.address session.client.rpcUrl 9 page)).toOption.map
          (pageOf ·.text) = some (page.getD 1) := by
      decide +kernel
    intro page hpage
    -- the block has two pages, so these are all the addresses there are
    have hmem : page ∈ [none, some 1, some 2] := by
      rcases page with _ | k
      · exact List.mem_cons_self
      · obtain ⟨hone, htwo⟩ := hpage k rfl
        rw [pages_crowded] at htwo
        obtain rfl | rfl : k = 1 ∨ k = 2 := by omega
        · exact List.mem_cons_of_mem _ List.mem_cons_self
        · exact List.mem_cons_of_mem _ (List.mem_cons_of_mem _ List.mem_cons_self)
    obtain ⟨url, hurl, hpageOf⟩ := Option.map_eq_some_iff.mp (hnamed page hmem)
    exact ⟨url, eq_ok_of_toOption hurl, hpageOf⟩

/-- What the last transaction of this block tells. -/
theorem told_crowded :
    Mutation.ofTransactions (crowded.map Payload.transaction) "cosmos" =
      [.unjailed Alpha.operator] := by
  decide +kernel

theorem told_first_page :
    Mutation.ofTransactions ((crowded.map Payload.transaction).take Session.pageSize) "cosmos" =
      [] := by
  decide +kernel

end Archive

/-- The client of the archive gets the first page of the block, and a scan finds nothing on it. -/
theorem Registry.scan_reads_first_page_of_two :
    let w : World (Session (Archive Archive.crowded)) Memory :=
      World.start .standard Archive.session .empty
    (Chain.transactions w.chain 9).1 =
        .ok ((Archive.crowded.map Payload.transaction).take Session.pageSize) ∧
      ((scan "cosmos" 9).runIn w).1 = .ok [] := by
  intro w
  obtain ⟨hshown, -, hscan, -⟩ := scan_reads_first_page Archive.paged_crowded "cosmos" (w := w) rfl
  rw [Archive.told_first_page] at hscan
  exact ⟨hshown, hscan⟩

/-- The node holds a transaction in which a validator leaves jail. The client does not get it. -/
theorem Archive.unjailing_unseen :
    Node.Paged (Archive crowded) session.client.rpcUrl 9 crowded ∧
      (Chain.transactions session 9).1 ≠ .ok (crowded.map Payload.transaction) ∧
      Mutation.ofTransactions (crowded.map Payload.transaction) "cosmos" =
        [.unjailed Alpha.operator] ∧
      ∀ txs, (Chain.transactions session 9).1 = .ok txs →
        Mutation.ofTransactions txs "cosmos" = [] := by
  have hshown := Session.transactions_of_paged paged_crowded (s := session) rfl
  refine ⟨paged_crowded, ?_, told_crowded, ?_⟩
  · rw [hshown]
    intro hall
    have hlength := congrArg List.length (Except.ok.inj hall)
    rw [List.length_map, List.length_map, List.length_take] at hlength
    exact absurd hlength (by decide)
  · intro txs htxs
    obtain rfl := Except.ok.inj (hshown.symm.trans htxs)
    rw [List.map_take]
    exact told_first_page

end Liveness
