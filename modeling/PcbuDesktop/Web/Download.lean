import PcbuDesktop.Web.HttpClient

set_option autoImplicit false

/-! # `HttpClient::Download`

`HttpClient::ReadStreamed` reads the body of a reply through one buffer of a fixed size, and hands every
run of bytes on to the sink of the caller. The sink is the same for all replies of a chain of redirects;
the bodies of redirects are read and dropped. What the sink gets in the end is one body, that of the
response that is returned.

Boost.Beast's parser is a parameter: for every read it says how it ended, which bytes it has put into the
buffer, and whether the message is complete.
-/

namespace PcbuDesktop

namespace HttpClient

/-! ## The data -/

/-- `beast::error_code`, as far as it is compared. -/
inductive ReadCode where
  | success
  | needBuffer
  | eof
  | streamTruncated
  | other
  deriving DecidableEq, Repr

/-- One `http::async_read_some`. -/
structure SomeRead where
  ec : ReadCode := .success
  message : Str := []
  /-- what was put at the front of the buffer -/
  written : Bytes := []
  isDone : Bool := false
  deriving DecidableEq, Repr

/-- What `http::async_read_header` has parsed. -/
structure Header where
  status : Int
  headers : List (Str × Str) := []
  contentLength : Option UInt64 := none
  isDone : Bool := false
  deriving DecidableEq, Repr

/-- What comes back for a request. Behind the last read the transfer times out. -/
structure Reply where
  header : Except Str Header
  reads : List SomeRead := []
  timeout : Str := []

/-- A call of the sink. -/
inductive SinkCall where
  | data (bytes : Bytes)
  | progress (transferred total : UInt64)
  deriving DecidableEq, Repr

/-- The handlers of the caller. What they answer, or throw, may depend on all calls so far. -/
structure DownloadSink where
  onData : List SinkCall → Except Str Bool
  onProgress : Option (List SinkCall → Except Str Bool)

/-- All bytes that were passed to `onData`. -/
def delivered (calls : List SinkCall) : Bytes :=
  calls.flatMap (fun call => match call with
    | .data bytes => bytes
    | .progress _ _ => [])

/-- Every count that was reported is the number of bytes that were delivered before. -/
def Counted (calls : List SinkCall) : Prop :=
  ∀ before transferred total after, calls = before ++ .progress transferred total :: after →
    transferred = UInt64.ofNat (delivered before).length

/-! ## `ReadStreamed` -/

def chunkSize : Nat := 64 * 1024

/-- The variables of the loop, and the calls that were made. -/
structure Reading where
  isDone : Bool
  chunk : Bytes := List.replicate chunkSize 0
  transferred : UInt64 := 0
  calls : List SinkCall := []

/-- The calls of the handlers for a run of bytes; what is thrown, if anything is. -/
def deliver (sink : DownloadSink) (data : Bytes) (total : UInt64) (s : Reading) : Option Str × Reading :=
  let s := { s with calls := s.calls ++ [.data data] }
  match sink.onData s.calls with
  | .error what => (some what, s)
  | .ok false => (some (str "Download aborted."), s)
  | .ok true =>
      match sink.onProgress with
      | none => (none, s)
      | some onProgress =>
          let s := { s with calls := s.calls ++ [.progress s.transferred total] }
          match onProgress s.calls with
          | .error what => (some what, s)
          | .ok false => (some (str "Download aborted."), s)
          | .ok true => (none, s)

/-- One round of the loop. -/
def readRound (sink : DownloadSink) (redirect : Bool) (total : UInt64) (read : SomeRead) (s : Reading) :
    Option Str × Reading :=
  let s := { s with
    isDone := read.isDone
    chunk := read.written ++ s.chunk.drop read.written.length }
  -- `message.body().size`: the room behind what was written
  let bodySize := s.chunk.length - read.written.length
  let ec := if read.ec = .needBuffer then .success else read.ec
  if ec ≠ .success ∧ ¬ (s.isDone = true ∧ (ec = .eof ∨ ec = .streamTruncated)) then
    (some (str "Reading response failed: " ++ read.message), s)
  else
    let received := s.chunk.length - bodySize
    if received = 0 ∨ redirect = true then (none, s)
    else
      deliver sink (s.chunk.take received) total
        { s with transferred := s.transferred + UInt64.ofNat received }

/-- The loop: it ends when the message is complete. -/
def readBody (sink : DownloadSink) (redirect : Bool) (total : UInt64) (timeout : Str) :
    List SomeRead → Reading → Option Str × Reading
  | [], s =>
      if s.isDone = true then (none, s) else (some (str "Reading response failed: " ++ timeout), s)
  | read :: reads, s =>
      if s.isDone = true then (none, s)
      else
        match readRound sink redirect total read s with
        | (some what, s) => (some what, s)
        | (none, s) => readBody sink redirect total timeout reads s

/-- A response, or what was thrown, and the calls of the sink. -/
structure Streamed (α : Type) where
  result : α
  calls : List SinkCall := []

/-- `HttpClient::ReadStreamed`. -/
def readStreamed (sink : DownloadSink) (reply : Reply) : Streamed (Except Str HttpResponse) :=
  match reply.header with
  | .error message => { result := .error (str "Reading response header failed: " ++ message) }
  | .ok header =>
      let response : HttpResponse := { ok := true, status := header.status, headers := header.headers }
      let total := header.contentLength.getD 0
      let read := readBody sink (isRedirect response.status) total reply.timeout reply.reads
        { isDone := header.isDone }
      match read.1 with
      | some what => { result := .error what, calls := read.2.calls }
      | none => { result := .ok response, calls := read.2.calls }

/-- What a download meets at every hop. `connect` stands for all that may throw before the reply is read:
the lookup, the connection, the handshake and the sending of the request. -/
structure DownloadWorld where
  canceled : Nat → Bool
  connect : Nat → Endpoint → Except Str Unit
  reply : Nat → Endpoint → Reply
  sink : Nat → DownloadSink
  /-- `m_Canceled` when an exception is caught -/
  canceledMeanwhile : Nat → Bool

namespace DownloadWorld

/-- `SendOnce` with a sink. -/
def sendOnce (world : DownloadWorld) (hop : Nat) (endpoint : Endpoint) : Streamed HttpResponse :=
  let failed (what : Str) : HttpResponse :=
    { ok := false, error := if world.canceledMeanwhile hop = true then str "Canceled." else what }
  match world.connect hop endpoint with
  | .error what => { result := failed what }
  | .ok () =>
      let streamed := readStreamed (world.sink hop) (world.reply hop endpoint)
      match streamed.result with
      | .error what => { result := failed what, calls := streamed.calls }
      | .ok response => { result := response, calls := streamed.calls }

/-- The exchanges of a download, for `Send`. -/
def http (world : DownloadWorld) : HttpWorld where
  canceled := world.canceled
  sendOnce := fun hop endpoint _ => (world.sendOnce hop endpoint).result

/-- The calls of the sink that the exchanges make, one after the other. -/
def calls (world : DownloadWorld) (hops : List Hop) : List SinkCall :=
  hops.zipIdx.flatMap (fun x => (world.sendOnce x.2 x.1.endpoint).calls)

end DownloadWorld

/-! ## What the parser does -/

/-- The parser puts the bytes of the body into the buffer in their order, and is done when it has put all
of them; the first ones were put by the reads before. -/
def YieldsFrom (body : Bytes) : Bytes → List SomeRead → Prop
  | _, [] => True
  | seen, read :: reads =>
      read.written.length ≤ chunkSize ∧ seen ++ read.written <+: body ∧
        (read.isDone = true → seen ++ read.written = body) ∧
        YieldsFrom body (seen ++ read.written) reads

/-- The parser yields the body of the reply. -/
def Reply.Yields (reply : Reply) (body : Bytes) : Prop :=
  YieldsFrom body [] reply.reads ∧
    ∀ header, reply.header = .ok header → header.isDone = true → body = []

/-! ## The calls -/

theorem delivered_append (a b : List SinkCall) : delivered (a ++ b) = delivered a ++ delivered b :=
  List.flatMap_append

theorem delivered_data (bytes : Bytes) : delivered [.data bytes] = bytes := List.append_nil bytes

theorem delivered_progress (transferred total : UInt64) : delivered [.progress transferred total] = [] :=
  rfl

theorem counted_nil : Counted [] := by
  intro before transferred total after h
  cases before <;> cases h

/-- One more call. -/
theorem Counted.snoc {calls : List SinkCall} (h : Counted calls) {call : SinkCall}
    (hcall : ∀ transferred total, call = .progress transferred total →
      transferred = UInt64.ofNat (delivered calls).length) : Counted (calls ++ [call]) := by
  intro before transferred total after heq
  rcases List.eq_nil_or_concat after with rfl | ⟨after, last, rfl⟩
  · obtain ⟨hbefore, hlast⟩ := List.append_inj' heq rfl
    rw [← hbefore]
    exact hcall transferred total (List.singleton_inj.mp hlast)
  · rw [List.concat_eq_append, ← List.cons_append, ← List.append_assoc] at heq
    exact h before transferred total after (List.append_inj' heq rfl).1

/-! ## One round -/

theorem deliver_cases (sink : DownloadSink) (data : Bytes) (total : UInt64) (s : Reading) :
    (deliver sink data total s).2 = { s with calls := s.calls ++ [.data data] } ∨
    (deliver sink data total s).2 =
      { s with calls := s.calls ++ [.data data] ++ [.progress s.transferred total] } := by
  unfold deliver
  dsimp only
  split
  · exact Or.inl rfl
  · exact Or.inl rfl
  · split
    · exact Or.inl rfl
    · split
      · exact Or.inr rfl
      · exact Or.inr rfl
      · exact Or.inr rfl

/-- The loop has read the first bytes of a body. -/
structure Reading.Inv (redirect : Bool) (seen : Bytes) (s : Reading) : Prop where
  room : s.chunk.length = chunkSize
  shown : delivered s.calls = if redirect = true then [] else seen
  silent : redirect = true → s.calls = []
  transferred_eq : s.transferred = UInt64.ofNat (delivered s.calls).length
  counted : Counted s.calls

section

variable {redirect : Bool} {seen body : Bytes} {s : Reading}

/-- A run of bytes is handed on, and counted before the count is reported. -/
theorem Reading.Inv.deliver (h : s.Inv false seen) (sink : DownloadSink) (data : Bytes) (total : UInt64) :
    (deliver sink data total
      { s with transferred := s.transferred + UInt64.ofNat data.length }).2.Inv false (seen ++ data) := by
  have hshown : delivered (s.calls ++ [.data data]) = seen ++ data := by
    rw [delivered_append, h.shown, delivered_data]
    rfl
  have hcount : s.transferred + UInt64.ofNat data.length =
      UInt64.ofNat (delivered (s.calls ++ [.data data])).length := by
    rw [hshown, List.length_append, UInt64.ofNat_add, h.transferred_eq, h.shown]
    rfl
  have hcounted : Counted (s.calls ++ [.data data]) := h.counted.snoc nofun
  rcases deliver_cases sink data total
    { s with transferred := s.transferred + UInt64.ofNat data.length } with heq | heq
  · rw [heq]
    exact ⟨h.room, hshown, nofun, hcount, hcounted⟩
  · rw [heq]
    have hsame : delivered (s.calls ++ [.data data] ++
        [.progress (s.transferred + UInt64.ofNat data.length) total]) = seen ++ data := by
      rw [delivered_append, hshown, delivered_progress, List.append_nil]
    have htotal : s.transferred + UInt64.ofNat data.length = UInt64.ofNat (delivered (s.calls ++
        [.data data] ++ [.progress (s.transferred + UInt64.ofNat data.length) total])).length := by
      rw [hsame, hcount, hshown]
    refine ⟨h.room, hsame, nofun, htotal, hcounted.snoc ?_⟩
    intro transferred total' hcall
    cases hcall
    exact hcount

/-- A round hands on what was put into the buffer, or it fails before it calls a handler. -/
theorem readRound_spec (h : s.Inv redirect seen) (sink : DownloadSink) (total : UInt64) {read : SomeRead}
    (hroom : read.written.length ≤ chunkSize) :
    ((readRound sink redirect total read s).2.Inv redirect (seen ++ read.written) ∧
      (readRound sink redirect total read s).2.isDone = read.isDone) ∨
    ((readRound sink redirect total read s).1 ≠ none ∧
      (readRound sink redirect total read s).2.calls = s.calls) := by
  have hlength : (read.written ++ s.chunk.drop read.written.length).length = chunkSize := by
    rw [List.length_append, List.length_drop, h.room]
    omega
  have hreceived : chunkSize - (chunkSize - read.written.length) = read.written.length := by omega
  unfold readRound
  dsimp only
  rw [hlength, hreceived]
  generalize (if read.ec = .needBuffer then ReadCode.success else read.ec) = ec
  split
  · exact Or.inr ⟨nofun, rfl⟩
  · left
    split
    · next hskip =>
        refine ⟨⟨hlength, ?_, h.silent, h.transferred_eq, h.counted⟩, rfl⟩
        rcases hskip with hnone | hredirect
        · rw [List.length_eq_zero_iff.mp hnone, List.append_nil]
          exact h.shown
        · rw [h.shown, hredirect]
          rfl
    · next hshow =>
        rw [not_or, Bool.not_eq_true] at hshow
        obtain ⟨-, rfl⟩ := hshow
        rw [List.take_left]
        have hinv : Reading.Inv false seen
            { s with isDone := read.isDone, chunk := read.written ++ s.chunk.drop read.written.length } :=
          ⟨hlength, h.shown, nofun, h.transferred_eq, h.counted⟩
        refine ⟨hinv.deliver sink read.written total, ?_⟩
        rcases deliver_cases sink read.written total { s with
          isDone := read.isDone
          chunk := read.written ++ s.chunk.drop read.written.length
          transferred := s.transferred + UInt64.ofNat read.written.length } with heq | heq
        · rw [heq]
        · rw [heq]

/-! ## One reply -/

/-- The calls deliver the body of a reply: nothing of a redirect, a beginning of the body of another
reply, and all of it if the reply was read to its end. -/
structure Delivers (redirect : Bool) (body : Bytes) (finished : Prop) (calls : List SinkCall) : Prop where
  counted : Counted calls
  silent : redirect = true → calls = []
  beginning : delivered calls <+: body
  whole : finished → delivered calls = if redirect = true then [] else body

theorem Reading.Inv.delivers (h : s.Inv redirect seen) (hseen : seen <+: body) {finished : Prop}
    (hwhole : finished → seen = body) : Delivers redirect body finished s.calls := by
  refine ⟨h.counted, h.silent, ?_, ?_⟩
  · rw [h.shown]
    split
    · exact List.nil_prefix
    · exact hseen
  · intro hfinished
    rw [h.shown, hwhole hfinished]

/-- The whole loop, from the bytes that were read so far. -/
theorem readBody_delivers (sink : DownloadSink) (total : UInt64) (timeout : Str) (reads : List SomeRead)
    (h : s.Inv redirect seen) (hseen : seen <+: body) (hdone : s.isDone = true → seen = body)
    (hyields : YieldsFrom body seen reads) :
    Delivers redirect body ((readBody sink redirect total timeout reads s).1 = none)
      (readBody sink redirect total timeout reads s).2.calls := by
  induction reads generalizing seen s with
  | nil =>
      unfold readBody
      split
      · next hd => exact h.delivers hseen (fun _ => hdone hd)
      · exact h.delivers hseen nofun
  | cons read reads ih =>
      obtain ⟨hroom, hnext, hlast, hyields⟩ := hyields
      unfold readBody
      split
      · next hd => exact h.delivers hseen (fun _ => hdone hd)
      · have hround := readRound_spec h sink total hroom
        cases hresult : readRound sink redirect total read s with
        | mk what s' =>
            rw [hresult] at hround
            cases what with
            | some what =>
                rcases hround with ⟨hinv, -⟩ | ⟨-, hcalls⟩
                · exact hinv.delivers hnext nofun
                · dsimp only at hcalls ⊢
                  rw [hcalls]
                  exact h.delivers hseen nofun
            | none =>
                rcases hround with ⟨hinv, hsame⟩ | ⟨hthrown, -⟩
                · refine ih hinv hnext ?_ hyields
                  intro hd
                  rw [hsame] at hd
                  exact hlast hd
                · exact absurd rfl hthrown

end

section

variable {world : DownloadWorld} {hop : Nat} {endpoint : Endpoint} {body : Bytes}

theorem Delivers.failed {redirect : Bool} {calls : List SinkCall} {p q : Prop}
    (h : Delivers redirect body p calls) (hq : ¬ q) : Delivers false body q calls :=
  ⟨h.counted, nofun, h.beginning, fun hfinished => absurd hfinished hq⟩

theorem delivers_nothing {redirect : Bool} {p : Prop} (hp : ¬ p) : Delivers redirect body p [] :=
  ⟨counted_nil, fun _ => rfl, List.nil_prefix, fun hfinished => absurd hfinished hp⟩

theorem readStreamed_delivers {reply : Reply} (hyields : reply.Yields body) (sink : DownloadSink) :
    match (readStreamed sink reply).result with
    | .error _ => Delivers false body False (readStreamed sink reply).calls
    | .ok response =>
        Delivers (isRedirect response.status) body True (readStreamed sink reply).calls := by
  unfold readStreamed
  cases hheader : reply.header with
  | error message => exact delivers_nothing id
  | ok header =>
      dsimp only
      have hstart : Reading.Inv (isRedirect header.status) [] { isDone := header.isDone } := by
        refine ⟨List.length_replicate, ?_, fun _ => rfl, rfl, counted_nil⟩
        split <;> rfl
      have hbody := readBody_delivers sink (header.contentLength.getD 0) reply.timeout reply.reads hstart
        List.nil_prefix (fun hd => (hyields.2 header hheader hd).symm) hyields.1
      cases hread : readBody sink (isRedirect header.status) (header.contentLength.getD 0) reply.timeout
          reply.reads { isDone := header.isDone } with
      | mk what s =>
          rw [hread] at hbody
          cases what with
          | some what => exact hbody.failed id
          | none => exact ⟨hbody.counted, hbody.silent, hbody.beginning, fun _ => hbody.whole rfl⟩

theorem sendOnce_delivers (hyields : (world.reply hop endpoint).Yields body) :
    Delivers (isRedirect (world.sendOnce hop endpoint).result.status) body
      ((world.sendOnce hop endpoint).result.ok = true) (world.sendOnce hop endpoint).calls := by
  unfold DownloadWorld.sendOnce
  dsimp only
  cases world.connect hop endpoint with
  | error what => exact delivers_nothing nofun
  | ok _ =>
      dsimp only
      have hreply := readStreamed_delivers hyields (world.sink hop)
      cases hresult : (readStreamed (world.sink hop) (world.reply hop endpoint)).result with
      | error what =>
          rw [hresult] at hreply
          exact hreply.failed nofun
      | ok response =>
          rw [hresult] at hreply
          exact ⟨hreply.counted, hreply.silent, hreply.beginning, fun _ => hreply.whole trivial⟩

end

/-! ## Replies that are read to their end -/

/-- The read failed, and not behind a complete message. -/
def SomeRead.Failed (read : SomeRead) : Prop :=
  (if read.ec = .needBuffer then ReadCode.success else read.ec) ≠ .success ∧
    ¬ (read.isDone = true ∧ ((if read.ec = .needBuffer then ReadCode.success else read.ec) = .eof ∨
      (if read.ec = .needBuffer then ReadCode.success else read.ec) = .streamTruncated))

instance (read : SomeRead) : Decidable read.Failed := by
  unfold SomeRead.Failed
  infer_instance

/-- The handlers go on, whatever they are given. -/
structure DownloadSink.Accepts (sink : DownloadSink) : Prop where
  onData : ∀ calls, sink.onData calls = .ok true
  onProgress : ∀ onProgress, sink.onProgress = some onProgress → ∀ calls, onProgress calls = .ok true

section

variable {sink : DownloadSink}

theorem deliver_accepted (hsink : sink.Accepts) (data : Bytes) (total : UInt64) (s : Reading) :
    (deliver sink data total s).1 = none ∧ (deliver sink data total s).2.isDone = s.isDone := by
  unfold deliver
  dsimp only
  rw [hsink.onData]
  dsimp only
  split
  · exact ⟨rfl, rfl⟩
  · next onProgress hprogress =>
      rw [hsink.onProgress onProgress hprogress]
      exact ⟨rfl, rfl⟩

theorem readRound_accepted (hsink : sink.Accepts) {read : SomeRead} (hread : ¬ read.Failed) (redirect : Bool)
    (total : UInt64) (s : Reading) :
    (readRound sink redirect total read s).1 = none ∧
      (readRound sink redirect total read s).2.isDone = read.isDone := by
  unfold SomeRead.Failed at hread
  unfold readRound
  dsimp only
  rw [if_neg hread]
  split
  · exact ⟨rfl, rfl⟩
  · exact deliver_accepted hsink _ _ _

/-- The loop ends by itself when some read completes the message. -/
theorem readBody_accepted (hsink : sink.Accepts) (redirect : Bool) (total : UInt64) (timeout : Str)
    (reads : List SomeRead) (hreads : ∀ read ∈ reads, ¬ read.Failed) (s : Reading)
    (hdone : s.isDone = true ∨ ∃ read ∈ reads, read.isDone = true) :
    (readBody sink redirect total timeout reads s).1 = none := by
  induction reads generalizing s with
  | nil =>
      rcases hdone with hd | ⟨_, ⟨⟩, -⟩
      unfold readBody
      rw [if_pos hd]
  | cons read reads ih =>
      unfold readBody
      split
      · rfl
      · next hd =>
          obtain ⟨hnone, hsame⟩ :=
            readRound_accepted hsink (hreads read List.mem_cons_self) redirect total s
          cases hround : readRound sink redirect total read s with
          | mk what s' =>
              rw [hround] at hnone hsame
              dsimp only at hnone hsame
              subst hnone
              refine ih (fun r hr => hreads r (List.mem_cons_of_mem read hr)) s' ?_
              rw [hsame]
              rcases hdone with hd' | ⟨r, hr, hlast⟩
              · exact absurd hd' hd
              · rcases List.mem_cons.mp hr with rfl | hr
                · exact Or.inl hlast
                · exact Or.inr ⟨r, hr, hlast⟩

/-- A reply that comes to its end is returned. -/
theorem sendOnce_accepted {world : DownloadWorld} {hop : Nat} {endpoint : Endpoint}
    (hconnect : world.connect hop endpoint = .ok ()) (hsink : (world.sink hop).Accepts) {header : Header}
    (hheader : (world.reply hop endpoint).header = .ok header)
    (hreads : ∀ read ∈ (world.reply hop endpoint).reads, ¬ read.Failed)
    (hdone : header.isDone = true ∨ ∃ read ∈ (world.reply hop endpoint).reads, read.isDone = true) :
    (world.sendOnce hop endpoint).result =
      { ok := true, status := header.status, headers := header.headers } := by
  have hbody := readBody_accepted hsink (isRedirect header.status) (header.contentLength.getD 0)
    (world.reply hop endpoint).timeout _ hreads { isDone := header.isDone } hdone
  unfold DownloadWorld.sendOnce readStreamed
  rw [hconnect, hheader]
  dsimp only
  rw [hbody]

end

/-! ## The chain -/

/-- If the exchanges before the last one do not call the sink, all calls are those of the last one. -/
theorem calls_eq_last {world : DownloadWorld} {hops : List Hop}
    (hsilent : ∀ hop exchange, hops[hop]? = some exchange → hop + 1 < hops.length →
      (world.sendOnce hop exchange.endpoint).calls = []) {last : Hop} (hlast : hops.getLast? = some last) :
    world.calls hops = (world.sendOnce (hops.length - 1) last.endpoint).calls := by
  rcases List.eq_nil_or_concat hops with rfl | ⟨before, exchange, rfl⟩
  · cases hlast
  · rw [List.concat_eq_append] at hsilent hlast ⊢
    rw [List.getLast?_concat, Option.some_inj] at hlast
    have hbefore : before.zipIdx.flatMap (fun x => (world.sendOnce x.2 x.1.endpoint).calls) = [] := by
      rw [List.flatMap_eq_nil_iff]
      intro x hx
      have hget : before[x.2]? = some x.1 := List.mem_zipIdx_iff_getElem?.mp hx
      obtain ⟨hlt, -⟩ := List.getElem?_eq_some_iff.mp hget
      refine hsilent x.2 x.1 ?_ ?_
      · rw [List.getElem?_append_left hlt]
        exact hget
      · rw [List.length_append, List.length_singleton]
        omega
    unfold DownloadWorld.calls
    rw [List.zipIdx_append, List.flatMap_append, hbefore, List.nil_append, hlast]
    show (world.sendOnce (0 + before.length) last.endpoint).calls ++ [] = _
    rw [List.append_nil, Nat.zero_add, List.length_append, List.length_singleton, Nat.add_sub_cancel]

/-- **Downloads deliver exactly one body.** When `Download` succeeds, the sink has got the body of the
response that is returned, or nothing if that is a redirect; when it fails, a beginning of the last body
at most. No reply that is a redirect reaches the sink, and every count that is reported is the number of
bytes that were delivered until then. -/
theorem download_delivers_body {Url Ref : Type} (lib : UrlLib Url Ref) (world : DownloadWorld)
    (body : Nat → Endpoint → Bytes)
    (hyields : ∀ hop endpoint, (world.reply hop endpoint).Yields (body hop endpoint))
    (maxRedirects : Int) (url : Str) (onData : Bool) :
    let sent := download lib world.http maxRedirects url onData
    let calls := world.calls sent.hops
    (sent.response.ok = true → ∃ last, sent.hops.getLast? = some last ∧ last.reply = sent.response ∧
      delivered calls =
        if isRedirect sent.response.status = true then [] else body (sent.hops.length - 1) last.endpoint) ∧
    (∀ last, sent.hops.getLast? = some last →
      delivered calls <+: body (sent.hops.length - 1) last.endpoint) ∧
    (∀ hop exchange, sent.hops[hop]? = some exchange → isRedirect exchange.reply.status = true →
      (world.sendOnce hop exchange.endpoint).calls = []) ∧
    Counted calls := by
  intro sent calls
  -- without a handler there is no exchange
  cases onData with
  | false => exact ⟨nofun, nofun, nofun, counted_nil⟩
  | true =>
      have hreply : ∀ hop exchange, sent.hops[hop]? = some exchange →
          exchange.reply = (world.sendOnce hop exchange.endpoint).result := by
        intro hop exchange h
        have hr := sendLoop_reply _ 0 url hop exchange h
        rw [Nat.zero_add] at hr
        exact hr
      have hsilent : ∀ hop exchange, sent.hops[hop]? = some exchange →
          isRedirect exchange.reply.status = true →
            (world.sendOnce hop exchange.endpoint).calls = [] := by
        intro hop exchange h hredirect
        rw [hreply hop exchange h] at hredirect
        exact (sendOnce_delivers (hyields hop exchange.endpoint)).silent hredirect
      have hcalls : ∀ last, sent.hops.getLast? = some last →
          calls = (world.sendOnce (sent.hops.length - 1) last.endpoint).calls := by
        intro last hlast
        refine calls_eq_last (fun hop exchange h hlt => hsilent hop exchange h ?_) hlast
        exact sendLoop_followed _ 0 url hop exchange h hlt
      have hdelivers : ∀ last, sent.hops.getLast? = some last →
          Delivers (isRedirect last.reply.status) (body (sent.hops.length - 1) last.endpoint)
            (last.reply.ok = true) calls := by
        intro last hlast
        rw [hcalls last hlast,
          hreply (sent.hops.length - 1) last (List.getLast?_eq_getElem? ▸ hlast)]
        exact sendOnce_delivers (hyields _ _)
      refine ⟨?_, fun last hlast => (hdelivers last hlast).beginning, hsilent, ?_⟩
      · intro hok
        obtain ⟨last, hlast, hsame⟩ := sendLoop_last _ 0 url hok
        have hwhole := (hdelivers last hlast).whole
        rw [hsame] at hwhole
        exact ⟨last, hlast, hsame, hwhole hok⟩
      · cases hlast : sent.hops.getLast? with
        | none =>
            have hnil : calls = [] := by
              show world.calls sent.hops = []
              rw [List.getLast?_eq_none_iff.mp hlast]
              rfl
            rw [hnil]
            exact counted_nil
        | some last => exact (hdelivers last hlast).counted

end HttpClient

namespace Sample

open HttpClient

/-- A redirect with a body of its own, and behind it a body that comes in pieces. -/
def downloading : DownloadWorld where
  canceled := fun _ => false
  connect := fun _ _ => .ok ()
  reply := fun hop _ =>
    if hop = 0 then
      { header := .ok { status := 302, headers := [(str "Location", str "https://b/x")] }
        reads := [{ written := str "moved", isDone := true }] }
    else
      { header := .ok { status := 200, contentLength := some 6 }
        reads := [{ ec := .needBuffer, written := str "upd" }, {},
          { ec := .eof, written := str "ate", isDone := true }] }
  sink := fun _ => { onData := fun _ => .ok true, onProgress := some (fun _ => .ok true) }
  canceledMeanwhile := fun _ => false

def downloadedBody (hop : Nat) : Bytes := if hop = 0 then str "moved" else str "update"

theorem downloading_yields (hop : Nat) (endpoint : Endpoint) :
    (downloading.reply hop endpoint).Yields (downloadedBody hop) := by
  by_cases hhop : hop = 0
  · rw [hhop]
    refine ⟨⟨by decide, by decide, by decide, trivial⟩, ?_⟩
    intro header hheader hdone
    cases hheader
    cases hdone
  · have hreply : downloading.reply hop endpoint = downloading.reply 1 endpoint := by
      unfold downloading
      dsimp only
      rw [if_neg hhop, if_neg Nat.one_ne_zero]
    have hbody : downloadedBody hop = downloadedBody 1 := by
      unfold downloadedBody
      rw [if_neg hhop, if_neg Nat.one_ne_zero]
    rw [hreply, hbody]
    refine ⟨⟨by decide, by decide, by decide, by decide, by decide, by decide, by decide, by decide,
      by decide, trivial⟩, ?_⟩
    intro header hheader hdone
    cases hheader
    cases hdone

end Sample

namespace HttpClient

/-- The responses of the two hops. -/
theorem downloading_response (hop : Nat) (endpoint : Endpoint) :
    (Sample.downloading.sendOnce hop endpoint).result =
      if hop = 0 then { ok := true, status := 302, headers := [(str "Location", str "https://b/x")] }
      else { ok := true, status := 200 } := by
  have hsink : (Sample.downloading.sink hop).Accepts := by
    refine ⟨fun _ => rfl, ?_⟩
    rintro _ ⟨⟩ _
    rfl
  by_cases hhop : hop = 0
  · have hreply : Sample.downloading.reply hop endpoint = Sample.downloading.reply 0 {} := by rw [hhop]; rfl
    rw [if_pos hhop]
    refine sendOnce_accepted rfl hsink (by rw [hreply]; rfl) ?_ ?_
    · rw [hreply]
      decide
    · rw [hreply]
      decide
  · have hreply : Sample.downloading.reply hop endpoint = Sample.downloading.reply 1 {} := by
      unfold Sample.downloading
      dsimp only
      rw [if_neg hhop, if_neg Nat.one_ne_zero]
    rw [if_neg hhop]
    refine sendOnce_accepted rfl hsink (by rw [hreply]; rfl) ?_ ?_
    · rw [hreply]
      decide
    · rw [hreply]
      decide

/-- Both replies are read, and the sink gets the second body. -/
theorem download_delivers_body_sample :
    (download Sample.urlLib Sample.downloading.http 5 (str "https://a") true).response.ok = true ∧
      delivered (Sample.downloading.calls
        (download Sample.urlLib Sample.downloading.http 5 (str "https://a") true).hops) = str "update" := by
  have hhttp : Sample.downloading.http =
      { canceled := fun _ => false
        sendOnce := fun hop _ _ =>
          if hop = 0 then { ok := true, status := 302, headers := [(str "Location", str "https://b/x")] }
          else { ok := true, status := 200 } } := by
    unfold DownloadWorld.http
    congr 1
    funext hop endpoint _
    exact downloading_response hop endpoint
  obtain ⟨hresponse, htwo⟩ :
      (download Sample.urlLib Sample.downloading.http 5 (str "https://a") true).response =
        { ok := true, status := 200 } ∧
      (download Sample.urlLib Sample.downloading.http 5 (str "https://a") true).hops.length = 2 := by
    rw [hhttp]
    decide +kernel
  obtain ⟨hwhole, -⟩ := download_delivers_body Sample.urlLib Sample.downloading
    (fun hop _ => Sample.downloadedBody hop) Sample.downloading_yields 5 (str "https://a") true
  rw [hresponse, htwo] at hwhole
  rw [hresponse]
  obtain ⟨last, -, -, hdelivered⟩ := hwhole rfl
  exact ⟨rfl, hdelivered⟩

end HttpClient

end PcbuDesktop
