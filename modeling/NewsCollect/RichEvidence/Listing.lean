/-
**Listing packets.**

A scan reads the evidence items that have links in the order of their identifiers, chunk by chunk.
The rows behind a chunk are loaded at once, and its packets are built one after the other, until
there are enough of them or enough items are scanned.

* `listing`: the scan, with any function that makes the packet of an item of a chunk.
* `listPackets`: the scan that loads a chunk at once.
* `listStatements`, `packetQueryBudget`: the statements of a scan, and how many there may be.
-/

import NewsCollect.RichEvidence.Builder

namespace NewsCollect.RichEvidence

open Collection Evidence SafeProjection

/-- The parameters of a listing. -/
structure ListRequest where
  afterEvidenceId : Option Uuid := none
  limit : Int := 50
  provider : Option String := none
  quality : Option String := none
  scanLimit : Option Int := none

namespace ListRequest

/-- How many items are scanned at most. -/
def effectiveScanLimit (request : ListRequest) : Int :=
  request.scanLimit.getD (min (request.limit * 10) 500)

/-- The checks of the parameters. -/
def check (limits : Limits) (request : ListRequest) : Result Unit := do
  require (1 ≤ request.limit ∧ request.limit ≤ limits.maxBatchSize) .richEvidenceError
    "rich_evidence_batch_limit_invalid"
  require (request.provider.all ["marketaux", "finnhub", "eia", "sec_edgar"].contains)
    .richEvidenceError "rich_evidence_filter_invalid"
  require (request.quality.all ["complete", "partial"].contains) .richEvidenceError
    "rich_evidence_filter_invalid"
  require (request.limit ≤ request.effectiveScanLimit ∧ request.effectiveScanLimit ≤ 500)
    .richEvidenceError "rich_evidence_scan_limit_invalid"

/-- A packet of the quality that is asked for. -/
def wants (request : ListRequest) (packet : RichEvidencePacket) : Bool :=
  request.quality.all fun quality => qualityText packet.quality == quality

end ListRequest

/-- `_PREFETCH_CHUNK_SIZE`. -/
def prefetchChunkSize : Nat := 100

/-- The evidence items with a link, behind a cursor, in the order of their identifiers. -/
def linkedEvidence (store : Store) (cursor : Option Uuid) (provider : Option String) :
    List EvidenceItem :=
  (store.evidenceItems.filter fun evidence =>
    store.links.any (fun link => link.evidenceItemId == some evidence.id && link.status == .linked) &&
      cursor.all (fun cursor => decide (cursor < evidence.id)) &&
      provider.all fun provider => evidence.provider == provider).insertionSort
    fun left right => left.id ≤ right.id

/-- How far a scan has come. -/
structure Scan where
  packets : List RichEvidencePacket
  scanned : Nat
  cursor : Option Uuid
  more : Bool

/-- The items of a chunk, one by one. -/
def readChunk (packetOf : EvidenceItem → Result RichEvidencePacket) (request : ListRequest)
    (scan : Scan) : List EvidenceItem → Result Scan
  | [] => pure scan
  | evidence :: rest => do
      let packet ← packetOf evidence
      let scan := { scan with scanned := scan.scanned + 1, cursor := some evidence.id }
      if request.wants packet then
        let scan := { scan with packets := scan.packets ++ [packet] }
        if scan.packets.length = request.limit then
          pure { scan with more := scan.more || !rest.isEmpty }
        else readChunk packetOf request scan rest
      else readChunk packetOf request scan rest

/-- The items of the next chunk, and whether there are items behind them. -/
def nextChunk (store : Store) (request : ListRequest) (scan : Scan) : List EvidenceItem × Bool :=
  let take := min prefetchChunkSize (request.effectiveScanLimit.toNat - scan.scanned)
  let rows := (linkedEvidence store scan.cursor request.provider).take (take + 1)
  (rows.take take, decide (take < rows.length))

/-- The chunks, one by one. A chunk that is read has an item, so that there are no more chunks than
items may be scanned. -/
def readChunks (packetOf : Nat → List EvidenceItem → EvidenceItem → Result RichEvidencePacket)
    (store : Store) (request : ListRequest) : Nat → Nat → Scan → Result Scan
  | 0, _, scan => pure scan
  | fuel + 1, number, scan =>
      if request.limit ≤ scan.packets.length ∨ request.effectiveScanLimit ≤ scan.scanned then
        pure scan
      else
        let (pageRows, more) := nextChunk store request scan
        if pageRows.isEmpty then pure { scan with more := false }
        else do
          let scan ← readChunk (packetOf number pageRows) request { scan with more := more } pageRows
          if scan.packets.length = request.limit ∨ scan.more = false then pure scan
          else readChunks packetOf store request fuel (number + 1) scan

/-- **The scan.** -/
def listing (packetOf : Nat → List EvidenceItem → EvidenceItem → Result RichEvidencePacket)
    (limits : Limits) (store : Store) (request : ListRequest) : Result PacketPage := do
  request.check limits
  let scan ← readChunks packetOf store request request.effectiveScanLimit.toNat 0
    ⟨[], 0, request.afterEvidenceId, false⟩
  let exhausted := decide (request.effectiveScanLimit ≤ scan.scanned) && scan.more
  pure
    { packets := scan.packets
      nextEvidenceId := if scan.more || exhausted then scan.cursor else none
      scannedCount := scan.scanned
      returnedCount := scan.packets.length
      scanExhausted := exhausted
      hasMore := scan.more || exhausted }

/-- `list_packets`: the loads of a chunk return their rows in an order of their own. -/
def listPackets (library : StandardLibrary) (limits : Limits) (arrivals : Nat → Arrival)
    (store : Store) (request : ListRequest) : Result PacketPage :=
  listing (fun number pageRows evidence =>
    build library limits (loadInputs (arrivals number) store pageRows) evidence) limits store request

/-! ### Statements -/

/-- `_QUERIES_PER_PREFETCH_CHUNK`: the items of a chunk, and the six loads behind them. -/
def queriesPerPrefetchChunk : Nat := 7

/-- `packet_query_budget`. -/
def packetQueryBudget (scanLimit : Int) : Result Int := do
  require (1 ≤ scanLimit ∧ scanLimit ≤ 500) .valueError "rich_evidence_scan_limit_invalid"
  pure (1 + -(-scanLimit / prefetchChunkSize) * queriesPerPrefetchChunk)

/-- The statement that selects the items of a chunk. -/
def pageStatements : Nat := 1

/-- The statements of `_load_inputs`: one each for the links, the raw items, the sources, the
accounts, the runs and the content items. -/
def loadStatements : Nat := 6

/-- The statements of the chunks: there are no loads for a chunk without items. -/
def chunkStatements (packetOf : Nat → List EvidenceItem → EvidenceItem → Result RichEvidencePacket)
    (store : Store) (request : ListRequest) : Nat → Nat → Scan → Nat
  | 0, _, _ => 0
  | fuel + 1, number, scan =>
      if request.limit ≤ scan.packets.length ∨ request.effectiveScanLimit ≤ scan.scanned then 0
      else
        let (pageRows, more) := nextChunk store request scan
        if pageRows.isEmpty then pageStatements
        else
          pageStatements + loadStatements +
            match readChunk (packetOf number pageRows) request { scan with more := more } pageRows with
            | .ok scan =>
                if scan.packets.length = request.limit ∨ scan.more = false then 0
                else chunkStatements packetOf store request fuel (number + 1) scan
            | .error _ => 0

/-- The statements of a scan, of which the first one opens the snapshot. -/
def listStatements (library : StandardLibrary) (limits : Limits) (arrivals : Nat → Arrival)
    (store : Store) (request : ListRequest) : Nat :=
  1 + chunkStatements (fun number pageRows evidence =>
      build library limits (loadInputs (arrivals number) store pageRows) evidence) store request
    request.effectiveScanLimit.toNat 0 ⟨[], 0, request.afterEvidenceId, false⟩

end NewsCollect.RichEvidence
