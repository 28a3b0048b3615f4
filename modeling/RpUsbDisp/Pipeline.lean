import RpUsbDisp.Transport
import RpUsbDisp.Framing
import RpUsbDisp.Protocol

/-!
# The present pipeline of Windows

`PipelineHandlePresent` converts a surface to RGB565, cuts the pixels into chunks
with a header each, and sends one chunk after the other to the transport.  A chunk
is tried up to four times, each time with a target that may have to be opened
again, and the first chunk that fails all its tries ends the frame.

Sizes are `UINT32` throughout, as in the source.  What the system, the transport
and the device answer to a try is a parameter of the frame.
-/

namespace RpUsbDisp

namespace Windows

open Framing

/-! ## The target -/

def kMaxRetries : Nat := 3
def kInitialRetryDelayMs : UInt32 := 100
def kMaxRetryDelayMs : UInt32 := 2000

/-- `PipelineContext`: whether there is a parent device and an open target. -/
structure PipelineContext where
  parentDevice : Bool
  transportTarget : Bool
  deriving DecidableEq

/-- `CloseTransportTarget`. -/
def closeTransportTarget (context : PipelineContext) : PipelineContext :=
  { context with transportTarget := false }

/-- `EnsureTransportTarget`. -/
def ensureTransportTarget (context : PipelineContext) (a : TargetAnswers) :
    NTSTATUS × PipelineContext :=
  if context.transportTarget then (STATUS_SUCCESS, context)
  else if ¬ context.parentDevice then (STATUS_INVALID_DEVICE_STATE, context)
  else
    (openTransportTarget a, { context with transportTarget := NT_SUCCESS (openTransportTarget a) })

/-! ## One chunk -/

/-- What is answered to one try to send a chunk. -/
structure TryAnswers where
  target : TargetAnswers
  delivery : NTSTATUS
  ioctl : IoctlAnswers

/-- A try to send a chunk: its status, and the transfer it came to. -/
structure Attempt where
  chunkIndex : UInt32
  status : NTSTATUS
  transfer : Option Transfer

/-- The bytes a try has got written to the bulk pipe. -/
def Attempt.written (attempt : Attempt) : Option (List UInt8) :=
  match attempt.transfer with
  | some (.bulkOut bytes) => if NT_SUCCESS attempt.status then some bytes else none
  | _ => none

/-- Both drivers while a frame is sent, the tries made so far and the delays slept
between them. -/
structure PushState where
  pipeline : PipelineContext
  transport : DeviceContext
  attempts : List Attempt
  slept : List UInt32

/-- The body of the loop of `SendIoctlWithRetry`. -/
def sendTry (chunkIndex : UInt32) (buffer : List UInt8) (a : TryAnswers) (s : PushState) :
    NTSTATUS × PushState :=
  let target := ensureTransportTarget s.pipeline a.target
  if ¬ NT_SUCCESS target.1 then
    (target.1,
      { s with
        pipeline := target.2
        attempts := s.attempts ++ [⟨chunkIndex, target.1, none⟩] })
  else
    let done := sendIoctl s.transport ⟨IOCTL_RPUSB_PUSH_FRAME_CHUNK, buffer, 0⟩ a.delivery a.ioctl
    (done.status,
      { s with
        pipeline := if NT_SUCCESS done.status then target.2 else closeTransportTarget target.2
        transport := done.context
        attempts := s.attempts ++ [⟨chunkIndex, done.status, done.transfer⟩] })

/-- The loop of `SendIoctlWithRetry`, with `retriesLeft` retries after this try. -/
def retryLoop (chunkIndex : UInt32) (buffer : List UInt8) (answers : Nat → TryAnswers) :
    Nat → UInt32 → PushState → NTSTATUS × PushState
  | 0, _, s => sendTry chunkIndex buffer (answers kMaxRetries) s
  | retriesLeft+1, retryDelay, s =>
      let r := sendTry chunkIndex buffer (answers (kMaxRetries - (retriesLeft + 1))) s
      if NT_SUCCESS r.1 then r
      else
        retryLoop chunkIndex buffer answers retriesLeft (min (retryDelay * 2) kMaxRetryDelayMs)
          { r.2 with slept := r.2.slept ++ [retryDelay] }

/-- `SendIoctlWithRetry`, as the pipeline calls it. -/
def sendIoctlWithRetry (chunkIndex : UInt32) (buffer : List UInt8) (answers : Nat → TryAnswers)
    (s : PushState) : NTSTATUS × PushState :=
  retryLoop chunkIndex buffer answers kMaxRetries kInitialRetryDelayMs s

/-! ## The frame -/

/-- A mapped BGRA surface.  `pitch` is the `INT` as the row offset converts it. -/
structure Surface where
  width : UInt32
  height : UInt32
  pitch : UInt32
  pBits : Nat → UInt8

/-- One pixel of `ConvertBgraToRgb565`. -/
def rgb565 (b g r : UInt8) : UInt16 :=
  ((r.toUInt16 &&& 0xF8) <<< 8) ||| ((g.toUInt16 &&& 0xFC) <<< 3) ||| (b.toUInt16 >>> 3)

/-- `ConvertBgraToRgb565`: the pixels it stores from `dstRow` on. -/
def convertBgraToRgb565 (srcRow : Nat → UInt8) (width : UInt32) : List UInt16 :=
  (List.range width.toNat).map fun x =>
    let pixel := (UInt32.ofNat x * 4).toNat
    rgb565 (srcRow pixel) (srcRow (pixel + 1)) (srcRow (pixel + 2))

/-- `sizeof(UINT16)` times the pixels, as a `UINT32`. -/
def Surface.payloadBytes (surface : Surface) : UInt32 := surface.width * surface.height * 2

/-- The loop over the rows, into a frame buffer.  There is no result where it would
write outside the buffer. -/
def convertRows (surface : Surface) (pixelData : List UInt16) : Option (List UInt16) :=
  (List.range surface.height.toNat).foldlM (fun pixelData row =>
      let srcRow := fun i => surface.pBits ((UInt32.ofNat row * surface.pitch).toNat + i)
      writeAt pixelData (UInt32.ofNat row * surface.width).toNat
        (convertBgraToRgb565 srcRow surface.width))
    pixelData

def ChunkSize : UInt32 := 16 * 1024

/-- What a chunk carries besides its header. -/
def chunkDataSize : UInt32 := ChunkSize - 32

def totalChunks (payloadBytes : UInt32) : UInt32 :=
  (payloadBytes + chunkDataSize - 1) / chunkDataSize

/-- The header in memory. -/
def ChunkHeader.toBytes (h : ChunkHeader) : List UInt8 :=
  store32 h.frameId ++ store32 h.chunkIndex ++ store32 h.totalChunks ++ store32 h.chunkBytes ++
    store32 h.width ++ store32 h.height ++ store32 h.pixelFormat ++ store32 h.totalBytes

/-- `rpusb::PixelFormat::Rgb565`. -/
def pixelFormatRgb565 : UInt32 := 0

/-- The buffer of one chunk.  There is no result where the copy would read outside
the frame buffer. -/
def chunkBuffer (surface : Surface) (frameId : UInt32) (pixelData : List UInt16)
    (chunkIndex : UInt32) : Option (List UInt8) :=
  let payloadBytes := surface.payloadBytes
  let offset := chunkIndex * chunkDataSize
  let remainingBytes := payloadBytes - offset
  let currentChunkDataSize := if remainingBytes < chunkDataSize then remainingBytes else chunkDataSize
  let chunkHeader : ChunkHeader :=
    { frameId := frameId
      chunkIndex := chunkIndex
      totalChunks := totalChunks payloadBytes
      chunkBytes := currentChunkDataSize
      width := surface.width
      height := surface.height
      pixelFormat := pixelFormatRgb565
      totalBytes := payloadBytes }
  let source := (pixelData.drop (offset / 2).toNat).flatMap (store16 .little)
  if source.length < currentChunkDataSize.toNat then none
  else some (chunkHeader.toBytes ++ source.take currentChunkDataSize.toNat)

/-- What is answered while the chunks are sent: whether a buffer can be allocated
for a chunk, and the answers to every try. -/
structure ChunkAnswers where
  alloc : UInt32 → Bool
  tries : UInt32 → Nat → TryAnswers

/-- The loop over the chunks: whether all were sent. -/
def pushChunks (buffer : UInt32 → Option (List UInt8)) (a : ChunkAnswers) :
    Nat → UInt32 → PushState → Option (Bool × PushState)
  | 0, _, s => some (true, s)
  | count+1, chunkIndex, s =>
      if ¬ a.alloc chunkIndex then some (false, s)
      else
        match buffer chunkIndex with
        | none => none
        | some bytes =>
            let r := sendIoctlWithRetry chunkIndex bytes (a.tries chunkIndex) s
            if NT_SUCCESS r.1 then pushChunks buffer a count (chunkIndex + 1) r.2
            else some (false, r.2)

def DXGI_FORMAT_B8G8R8A8_UNORM : UInt32 := 87

/-- `DXGI_SURFACE_DESC`. -/
structure SurfaceDesc where
  width : UInt32
  height : UInt32
  format : UInt32

/-- What is answered to one present: an absent description, mapping or buffer is a
call that failed. -/
structure PresentAnswers where
  target : TargetAnswers
  getBuffer : NTSTATUS
  desc : Option SurfaceDesc
  mapped : Option (UInt32 × (Nat → UInt8))
  frameBuffer : Option (Nat → UInt16)
  chunks : ChunkAnswers

/-- What a present leaves. -/
structure Presented where
  frameCounter : UInt32
  push : PushState
  allChunksSent : Bool

/-- `PipelineHandlePresent`. -/
def pipelineHandlePresent (frameCounter : UInt32) (s : PushState) (a : PresentAnswers) :
    Option Presented :=
  let target := ensureTransportTarget s.pipeline a.target
  let s := { s with pipeline := target.2 }
  let dropped : Option Presented := some ⟨frameCounter, s, false⟩
  if ¬ NT_SUCCESS target.1 then dropped
  else if ¬ NT_SUCCESS a.getBuffer then dropped
  else
    match a.desc with
    | none => dropped
    | some desc =>
        if desc.width = 0 ∨ desc.height = 0 ∨ desc.format ≠ DXGI_FORMAT_B8G8R8A8_UNORM then dropped
        else
          match a.mapped, a.frameBuffer with
          | some mapped, some garbage => do
              let surface : Surface := ⟨desc.width, desc.height, mapped.1, mapped.2⟩
              let pixels := surface.payloadBytes.toNat / 2
              let pixelData ← convertRows surface ((List.range pixels).map garbage)
              let frameId := frameCounter + 1
              let sent ← pushChunks (chunkBuffer surface frameId pixelData) a.chunks
                (totalChunks surface.payloadBytes).toNat 0 s
              return ⟨frameId, sent.2, sent.1⟩
          | _, _ => dropped

section Tries

/-! ## The tries of a chunk -/

variable {buffer : List UInt8}

/-- The transport's checks let this buffer pass. -/
structure ChunkAccepted (buffer : List UInt8) : Prop where
  size : sizeofChunkHeader ≤ buffer.length
  valid : (ChunkHeader.read buffer).Valid

/-- The statistics after a chunk is written. -/
def counted (buffer : List UInt8) (statistics : Statistics) : Statistics :=
  let chunkHeader := ChunkHeader.read buffer
  if chunkHeader.chunkIndex = chunkHeader.totalChunks - 1 then statistics.count chunkHeader.totalBytes
  else statistics

/-- What the tries of one chunk do: there are at most `most`, and they fail until one
of them gets the chunk written; only that one changes the statistics. -/
structure Tried (chunkIndex : UInt32) (buffer : List UInt8) (most : Nat) (s : PushState)
    (r : NTSTATUS × PushState) (tries : List Attempt) : Prop where
  attempts_eq : r.2.attempts = s.attempts ++ tries
  own : ∀ t ∈ tries, t.chunkIndex = chunkIndex
  status_eq : ∀ t ∈ tries, NT_SUCCESS t.status = t.written.isSome
  length_le : tries.length ≤ most
  written : tries.filterMap Attempt.written = if NT_SUCCESS r.1 then [buffer] else []
  exhausted : NT_SUCCESS r.1 = false → tries.length = most
  statistics : r.2.transport.statistics =
    if NT_SUCCESS r.1 then counted buffer s.transport.statistics else s.transport.statistics

/-- The transport on an accepted chunk: the chunk is written, or nothing happens. -/
theorem sendIoctl_chunk (haccepted : ChunkAccepted buffer) (chunkIndex : UInt32) (transport : DeviceContext)
    (delivery : NTSTATUS) (a : IoctlAnswers) {done : Completion}
    (hdone : done = sendIoctl transport ⟨IOCTL_RPUSB_PUSH_FRAME_CHUNK, buffer, 0⟩ delivery a) :
    (⟨chunkIndex, done.status, done.transfer⟩ : Attempt).written =
        (if NT_SUCCESS done.status then some buffer else none) ∧
      done.context.statistics =
        if NT_SUCCESS done.status then counted buffer transport.statistics
        else transport.statistics := by
  have hhandler : usbDeviceIoDeviceControl transport ⟨IOCTL_RPUSB_PUSH_FRAME_CHUNK, buffer, 0⟩ a =
      ioctlPushFrameChunk transport ⟨IOCTL_RPUSB_PUSH_FRAME_CHUNK, buffer, 0⟩ a := rfl
  rw [sendIoctl, hhandler, ioctlPushFrameChunk, if_neg (Nat.not_lt.mpr haccepted.size)] at hdone
  simp only [if_neg (not_not_intro haccepted.valid)] at hdone
  rw [hdone]
  unfold Attempt.written counted
  by_cases hdelivery : NT_SUCCESS delivery = true
  · rw [if_pos hdelivery]
    by_cases hretrieve : NT_SUCCESS a.retrieve = true
    · rw [if_neg (not_not_intro hretrieve)]
      by_cases htransfer : NT_SUCCESS a.transfer = true
      · simp [htransfer]
      · simp [htransfer]
    · rw [if_pos hretrieve]
      simp [Completion.refuse, hretrieve]
  · rw [if_neg hdelivery]
    simp [Completion.refuse, hdelivery]

/-- **One try.** -/
theorem sendTry_tried (haccepted : ChunkAccepted buffer) (chunkIndex : UInt32) (a : TryAnswers)
    (s : PushState) :
    ∃ tries, Tried chunkIndex buffer 1 s (sendTry chunkIndex buffer a s) tries := by
  unfold sendTry
  by_cases htarget : NT_SUCCESS (ensureTransportTarget s.pipeline a.target).1 = true
  · generalize hdone : sendIoctl s.transport ⟨IOCTL_RPUSB_PUSH_FRAME_CHUNK, buffer, 0⟩ a.delivery
      a.ioctl = done
    obtain ⟨hwritten, hstatistics⟩ :=
      sendIoctl_chunk haccepted chunkIndex s.transport a.delivery a.ioctl hdone.symm
    rw [if_neg (not_not_intro htarget)]
    refine ⟨[⟨chunkIndex, done.status, done.transfer⟩], rfl, ?_, ?_, Nat.le_refl 1, ?_, fun _ => rfl,
      hstatistics⟩
    · intro t ht
      rw [List.mem_singleton.mp ht]
    · intro t ht
      rw [List.mem_singleton.mp ht, hwritten]
      cases NT_SUCCESS done.status <;> rfl
    · rw [List.filterMap_cons, hwritten]
      cases NT_SUCCESS done.status <;> rfl
  · have hfalse : NT_SUCCESS (ensureTransportTarget s.pipeline a.target).1 = false :=
      Bool.eq_false_iff.mpr htarget
    rw [if_pos htarget]
    refine ⟨[⟨chunkIndex, (ensureTransportTarget s.pipeline a.target).1, none⟩], rfl, ?_, ?_,
      Nat.le_refl 1, ?_, fun _ => rfl, ?_⟩
    · intro t ht
      rw [List.mem_singleton.mp ht]
    · intro t ht
      rw [List.mem_singleton.mp ht]
      exact hfalse
    · rw [hfalse]
      rfl
    · rw [hfalse]
      rfl

/-- **The retry loop**, by induction on the retries that are left. -/
theorem retryLoop_tried (haccepted : ChunkAccepted buffer) (chunkIndex : UInt32)
    (answers : Nat → TryAnswers) (retriesLeft : Nat) (retryDelay : UInt32) (s : PushState) :
    ∃ tries, Tried chunkIndex buffer (retriesLeft + 1) s
      (retryLoop chunkIndex buffer answers retriesLeft retryDelay s) tries := by
  induction retriesLeft generalizing retryDelay s with
  | zero => exact sendTry_tried haccepted chunkIndex _ s
  | succ retriesLeft ih =>
      obtain ⟨first, hfirst⟩ :=
        sendTry_tried haccepted chunkIndex (answers (kMaxRetries - (retriesLeft + 1))) s
      rw [retryLoop]
      generalize sendTry chunkIndex buffer (answers (kMaxRetries - (retriesLeft + 1))) s = r at hfirst
      have hone := hfirst.length_le
      cases hok : NT_SUCCESS r.1 with
      | true =>
          rw [if_pos rfl]
          refine ⟨first, { hfirst with length_le := by omega, exhausted := fun hfail => ?_ }⟩
          rw [hok] at hfail
          cases hfail
      | false =>
          rw [if_neg Bool.false_ne_true]
          obtain ⟨more, hmore⟩ := ih (min (retryDelay * 2) kMaxRetryDelayMs)
            { r.2 with slept := r.2.slept ++ [retryDelay] }
          have hnone := hfirst.written
          have hsame := hfirst.statistics
          have hfull := hfirst.exhausted hok
          have hrest := hmore.length_le
          rw [hok] at hnone hsame
          refine ⟨first ++ more, ?_, ?_, ?_, ?_, ?_, ?_, ?_⟩
          · rw [hmore.attempts_eq, hfirst.attempts_eq, List.append_assoc]
          · intro t ht
            exact (List.mem_append.mp ht).elim (hfirst.own t) (hmore.own t)
          · intro t ht
            exact (List.mem_append.mp ht).elim (hfirst.status_eq t) (hmore.status_eq t)
          · rw [List.length_append]
            omega
          · rw [List.filterMap_append, hnone, hmore.written]
            rfl
          · intro hfail
            have := hmore.exhausted hfail
            rw [List.length_append]
            omega
          · rw [hmore.statistics]
            rw [if_neg Bool.false_ne_true] at hsame
            rw [hsame]

theorem sendTry_slept (chunkIndex : UInt32) (buffer : List UInt8) (a : TryAnswers)
    (s : PushState) : (sendTry chunkIndex buffer a s).2.slept = s.slept := by
  rw [sendTry]
  by_cases htarget : NT_SUCCESS (ensureTransportTarget s.pipeline a.target).1 = true
  · rw [if_neg (not_not_intro htarget)]
  · rw [if_pos htarget]

/-- The delays of the back-off, from a first one on. -/
def backoff : Nat → UInt32 → List UInt32
  | 0, _ => []
  | n+1, retryDelay => retryDelay :: backoff n (min (retryDelay * 2) kMaxRetryDelayMs)

/-- The delays slept are the first ones of the back-off. -/
theorem retryLoop_slept (chunkIndex : UInt32) (buffer : List UInt8) (answers : Nat → TryAnswers)
    (retriesLeft : Nat) (retryDelay : UInt32) (s : PushState) :
    ∃ n, n ≤ retriesLeft ∧ (retryLoop chunkIndex buffer answers retriesLeft retryDelay s).2.slept =
      s.slept ++ (backoff retriesLeft retryDelay).take n := by
  induction retriesLeft generalizing retryDelay s with
  | zero =>
      refine ⟨0, Nat.le_refl 0, ?_⟩
      rw [retryLoop, sendTry_slept, List.take_zero, List.append_nil]
  | succ retriesLeft ih =>
      rw [retryLoop]
      split
      · refine ⟨0, Nat.zero_le _, ?_⟩
        rw [sendTry_slept, List.take_zero, List.append_nil]
      · obtain ⟨n, hn, hslept⟩ := ih (min (retryDelay * 2) kMaxRetryDelayMs) _
        refine ⟨n + 1, Nat.succ_le_succ hn, ?_⟩
        rw [hslept, sendTry_slept, backoff, List.take_succ_cons, List.append_assoc]
        rfl

example : backoff kMaxRetries kInitialRetryDelayMs = [100, 200, 400] := by decide

/-- A try at which nothing fails, at whichever target. -/
structure TryAnswers.Good (a : TryAnswers) : Prop where
  opens : NT_SUCCESS (openTransportTarget a.target) = true
  delivery : NT_SUCCESS a.delivery = true
  retrieve : NT_SUCCESS a.ioctl.retrieve = true
  transfer : NT_SUCCESS a.ioctl.transfer = true

/-- A good try sends its chunk, with the target at hand or opened again. -/
theorem sendTry_good (haccepted : ChunkAccepted buffer) (chunkIndex : UInt32) {a : TryAnswers}
    (hgood : a.Good) {s : PushState} (hparent : s.pipeline.parentDevice = true) :
    NT_SUCCESS (sendTry chunkIndex buffer a s).1 = true := by
  have htarget : NT_SUCCESS (ensureTransportTarget s.pipeline a.target).1 = true := by
    rw [ensureTransportTarget]
    by_cases hopen : s.pipeline.transportTarget = true
    · rw [if_pos hopen]
      rfl
    · rw [if_neg hopen, if_neg (not_not_intro hparent)]
      exact hgood.opens
  have hhandler : usbDeviceIoDeviceControl s.transport ⟨IOCTL_RPUSB_PUSH_FRAME_CHUNK, buffer, 0⟩
      a.ioctl = ioctlPushFrameChunk s.transport ⟨IOCTL_RPUSB_PUSH_FRAME_CHUNK, buffer, 0⟩ a.ioctl :=
    rfl
  rw [sendTry]
  simp only [htarget, not_true_eq_false, if_false]
  rw [sendIoctl, if_pos hgood.delivery, hhandler, ioctlPushFrameChunk,
    if_neg (not_not_intro hgood.retrieve), if_neg (Nat.not_lt.mpr haccepted.size)]
  simp only [if_neg (not_not_intro haccepted.valid), hgood.transfer]

theorem ensureTransportTarget_parentDevice (context : PipelineContext) (a : TargetAnswers) :
    (ensureTransportTarget context a).2.parentDevice = context.parentDevice := by
  rw [ensureTransportTarget]
  split
  · rfl
  · split <;> rfl

theorem sendTry_parentDevice (chunkIndex : UInt32) (buffer : List UInt8) (a : TryAnswers)
    (s : PushState) :
    (sendTry chunkIndex buffer a s).2.pipeline.parentDevice = s.pipeline.parentDevice := by
  have htarget := ensureTransportTarget_parentDevice s.pipeline a.target
  rw [sendTry]
  split
  · exact htarget
  · rw [← htarget]
    simp only
    split <;> rfl

/-- One good try among those that are left is enough, by induction on the retries that
are left. -/
theorem retryLoop_good (haccepted : ChunkAccepted buffer) (chunkIndex : UInt32)
    {answers : Nat → TryAnswers} {retry : Nat} (hgood : (answers retry).Good)
    (hretry : retry ≤ kMaxRetries) {retriesLeft : Nat} (hleft : kMaxRetries ≤ retry + retriesLeft)
    (retryDelay : UInt32) {s : PushState} (hparent : s.pipeline.parentDevice = true) :
    NT_SUCCESS (retryLoop chunkIndex buffer answers retriesLeft retryDelay s).1 = true := by
  induction retriesLeft generalizing retryDelay s with
  | zero =>
      have hlast : retry = kMaxRetries := by omega
      rw [hlast] at hgood
      exact sendTry_good haccepted chunkIndex hgood hparent
  | succ retriesLeft ih =>
      rw [retryLoop]
      by_cases hok : NT_SUCCESS (sendTry chunkIndex buffer
          (answers (kMaxRetries - (retriesLeft + 1))) s).1 = true
      · simp only [if_pos hok]
        exact hok
      · have hlater : retry ≠ kMaxRetries - (retriesLeft + 1) := by
          intro hnow
          rw [← hnow] at hok
          exact hok (sendTry_good haccepted chunkIndex hgood hparent)
        simp only [if_neg hok]
        refine ih (by omega) _ ?_
        exact (sendTry_parentDevice _ _ _ s).trans hparent

theorem retryLoop_parentDevice (chunkIndex : UInt32) (buffer : List UInt8)
    (answers : Nat → TryAnswers) (retriesLeft : Nat) (retryDelay : UInt32) (s : PushState) :
    (retryLoop chunkIndex buffer answers retriesLeft retryDelay s).2.pipeline.parentDevice =
      s.pipeline.parentDevice := by
  induction retriesLeft generalizing retryDelay s with
  | zero => exact sendTry_parentDevice _ _ _ s
  | succ retriesLeft ih =>
      rw [retryLoop]
      split
      · exact sendTry_parentDevice _ _ _ s
      · rw [ih]
        exact sendTry_parentDevice _ _ _ s

/-- **The tries of a chunk**: at most four. -/
theorem sendIoctlWithRetry_tried (haccepted : ChunkAccepted buffer) (chunkIndex : UInt32)
    (answers : Nat → TryAnswers) (s : PushState) :
    ∃ tries, Tried chunkIndex buffer (kMaxRetries + 1) s
      (sendIoctlWithRetry chunkIndex buffer answers s) tries :=
  retryLoop_tried haccepted chunkIndex answers kMaxRetries kInitialRetryDelayMs s

end Tries

section Frame

/-! ## The chunks of a frame -/

variable {total : Nat} {buffers : Nat → List UInt8} {payloadBytes : UInt32}

/-- How often a chunk was tried. -/
def triesOf (attempts : List Attempt) (chunkIndex : UInt32) : Nat :=
  attempts.countP fun t => t.chunkIndex = chunkIndex

theorem triesOf_append (xs ys : List Attempt) (chunkIndex : UInt32) :
    triesOf (xs ++ ys) chunkIndex = triesOf xs chunkIndex + triesOf ys chunkIndex :=
  List.countP_append

theorem triesOf_own {attempts : List Attempt} {chunkIndex : UInt32}
    (h : ∀ t ∈ attempts, t.chunkIndex = chunkIndex) : triesOf attempts chunkIndex = attempts.length :=
  List.countP_eq_length.mpr fun t ht => decide_eq_true (h t ht)

theorem triesOf_other {attempts : List Attempt} {chunkIndex : UInt32}
    (h : ∀ t ∈ attempts, t.chunkIndex ≠ chunkIndex) : triesOf attempts chunkIndex = 0 :=
  List.countP_eq_zero.mpr fun t ht => by rw [decide_eq_true_eq]; exact h t ht

/-- The chunks of a frame: every one can be built and passes the transport's checks,
and only the last one counts. -/
structure Chunked (buffer : UInt32 → Option (List UInt8)) (total : Nat)
    (buffers : Nat → List UInt8) (payloadBytes : UInt32) : Prop where
  total_lt : total < 2 ^ 32
  buffer_eq : ∀ i, i < total → buffer (UInt32.ofNat i) = some (buffers i)
  accepted : ∀ i, i < total → ChunkAccepted (buffers i)
  counted_eq : ∀ i, i < total → ∀ statistics,
    counted (buffers i) statistics =
      if i + 1 = total then statistics.count payloadBytes else statistics

/-- **What a frame leaves**, sent from chunk `start` on: chunks `start` to `k` are
written, in order and once; no chunk is tried more than four times; and the frame
ended early only because chunk `k` failed all its tries. -/
structure Pushed (total : Nat) (buffers : Nat → List UInt8) (payloadBytes : UInt32) (start : Nat)
    (s : PushState) (r : Bool × PushState) (k : Nat) (tries : List Attempt) : Prop where
  attempts_eq : r.2.attempts = s.attempts ++ tries
  start_le : start ≤ k
  le_total : k ≤ total
  sent : r.1 = decide (k = total)
  status_eq : ∀ t ∈ tries, NT_SUCCESS t.status = t.written.isSome
  range : ∀ t ∈ tries, start ≤ t.chunkIndex.toNat ∧ t.chunkIndex.toNat ≤ k ∧
    t.chunkIndex.toNat < total
  tries_le : ∀ chunkIndex, triesOf tries chunkIndex ≤ kMaxRetries + 1
  written : tries.filterMap Attempt.written = (List.range' start (k - start)).map buffers
  cause : k < total → triesOf tries (UInt32.ofNat k) = kMaxRetries + 1 ∧
    ∀ t ∈ tries, t.chunkIndex = UInt32.ofNat k → NT_SUCCESS t.status = false
  statistics : r.2.transport.statistics =
    if start < total ∧ k = total then s.transport.statistics.count payloadBytes
    else s.transport.statistics

theorem toNat_ofNat_lt {i : Nat} (h : i < 2 ^ 32) : (UInt32.ofNat i).toNat = i :=
  UInt32.toNat_ofNat_of_lt' h

/-- The frame ends with a chunk that fails all its tries. -/
theorem Pushed.failed {s : PushState} {start : Nat} {r : NTSTATUS × PushState}
    {tries : List Attempt} (hlt : start < total) (htotal : total < 2 ^ 32)
    (htried : Tried (UInt32.ofNat start) (buffers start) (kMaxRetries + 1) s r tries)
    (hfail : NT_SUCCESS r.1 = false) :
    Pushed total buffers payloadBytes start s (false, r.2) start tries := by
  have hindex : ∀ t ∈ tries, t.chunkIndex.toNat = start := by
    intro t ht
    rw [htried.own t ht, toNat_ofNat_lt (by omega)]
  have hnone : tries.filterMap Attempt.written = [] := by
    rw [htried.written, hfail]
    rfl
  have hsame : r.2.transport.statistics = s.transport.statistics := by
    rw [htried.statistics, hfail]
    rfl
  refine ⟨htried.attempts_eq, Nat.le_refl _, Nat.le_of_lt hlt, ?_, htried.status_eq, ?_, ?_, ?_, ?_, ?_⟩
  · rw [decide_eq_false (Nat.ne_of_lt hlt)]
  · intro t ht
    have := hindex t ht
    omega
  · intro chunkIndex
    exact Nat.le_trans List.countP_le_length htried.length_le
  · rw [hnone, Nat.sub_self]
    rfl
  · intro _
    refine ⟨(triesOf_own htried.own).trans (htried.exhausted hfail), fun t ht _ => ?_⟩
    have hunwritten : t.written = none := List.filterMap_eq_nil_iff.mp hnone t ht
    rw [htried.status_eq t ht, hunwritten]
    rfl
  · rw [hsame, if_neg fun h => Nat.ne_of_lt hlt h.2]

/-- A chunk that gets written, and the rest of the frame. -/
theorem Pushed.cons {s : PushState} {start k : Nat} {r : NTSTATUS × PushState}
    {r' : Bool × PushState} {first rest : List Attempt} (hlt : start < total)
    (htotal : total < 2 ^ 32)
    (hcounted : ∀ statistics, counted (buffers start) statistics =
      if start + 1 = total then statistics.count payloadBytes else statistics)
    (htried : Tried (UInt32.ofNat start) (buffers start) (kMaxRetries + 1) s r first)
    (hok : NT_SUCCESS r.1 = true)
    (hpushed : Pushed total buffers payloadBytes (start + 1) r.2 r' k rest) :
    Pushed total buffers payloadBytes start s r' k (first ++ rest) := by
  have hstart := hpushed.start_le
  have hindex : ∀ t ∈ first, t.chunkIndex.toNat = start := by
    intro t ht
    rw [htried.own t ht, toNat_ofNat_lt (by omega)]
  have hlater : ∀ t ∈ rest, t.chunkIndex ≠ UInt32.ofNat start := by
    intro t ht heq
    have hrange := hpushed.range t ht
    rw [heq, toNat_ofNat_lt (by omega)] at hrange
    omega
  have hone : first.filterMap Attempt.written = [buffers start] := by
    rw [htried.written, hok]
    rfl
  refine ⟨?_, by omega, hpushed.le_total, hpushed.sent, ?_, ?_, ?_, ?_, ?_, ?_⟩
  · rw [hpushed.attempts_eq, htried.attempts_eq, List.append_assoc]
  · intro t ht
    exact (List.mem_append.mp ht).elim (htried.status_eq t) (hpushed.status_eq t)
  · intro t ht
    rcases List.mem_append.mp ht with ht | ht
    · have := hindex t ht
      omega
    · have := hpushed.range t ht
      omega
  · intro chunkIndex
    rw [triesOf_append]
    by_cases hchunk : chunkIndex = UInt32.ofNat start
    · rw [hchunk, triesOf_other hlater, Nat.add_zero]
      exact Nat.le_trans List.countP_le_length htried.length_le
    · have hnone : triesOf first chunkIndex = 0 :=
        triesOf_other fun t ht heq => hchunk (heq.symm.trans (htried.own t ht))
      rw [hnone, Nat.zero_add]
      exact hpushed.tries_le chunkIndex
  · have hcount : k - start = k - (start + 1) + 1 := by omega
    rw [List.filterMap_append, hone, hpushed.written, hcount, List.range'_succ, List.map_cons]
    rfl
  · intro hk
    obtain ⟨htimes, hfails⟩ := hpushed.cause hk
    have hother : ∀ t ∈ first, t.chunkIndex ≠ UInt32.ofNat k := by
      intro t ht heq
      have := hindex t ht
      rw [heq, toNat_ofNat_lt (by omega)] at this
      omega
    refine ⟨?_, fun t ht heq => ?_⟩
    · rw [triesOf_append, triesOf_other hother, Nat.zero_add]
      exact htimes
    · rcases List.mem_append.mp ht with ht | ht
      · exact absurd heq (hother t ht)
      · exact hfails t ht heq
  · have hfirst : r.2.transport.statistics =
        if start + 1 = total then s.transport.statistics.count payloadBytes
        else s.transport.statistics := by
      rw [htried.statistics, hok, if_pos rfl, hcounted]
    have hle := hpushed.le_total
    rw [hpushed.statistics, hfirst]
    by_cases hlast : start + 1 = total
    · rw [if_neg fun h => Nat.ne_of_lt h.1 hlast, if_pos hlast, if_pos ⟨hlt, by omega⟩]
    · have hmore : start + 1 < total ∧ k = total ↔ start < total ∧ k = total := by omega
      rw [if_neg hlast, if_congr hmore rfl rfl]

/-- **The loop over the chunks**, by induction on the chunks that are left. -/
theorem pushChunks_pushed {buffer : UInt32 → Option (List UInt8)}
    (hchunked : Chunked buffer total buffers payloadBytes) {a : ChunkAnswers}
    (halloc : ∀ i, i < total → a.alloc (UInt32.ofNat i) = true) {count start : Nat}
    (hstart : start + count = total) (s : PushState) :
    ∃ r k tries, pushChunks buffer a count (UInt32.ofNat start) s = some r ∧
      Pushed total buffers payloadBytes start s r k tries := by
  have htotal := hchunked.total_lt
  induction count generalizing start s with
  | zero =>
      have heq : start = total := hstart
      refine ⟨(true, s), start, [], rfl, ?_⟩
      constructor
      · rw [List.append_nil]
      · exact Nat.le_refl _
      · exact Nat.le_of_eq heq
      · rw [decide_eq_true heq]
      · exact fun _ ht => absurd ht List.not_mem_nil
      · exact fun _ ht => absurd ht List.not_mem_nil
      · exact fun _ => Nat.zero_le _
      · rw [Nat.sub_self]
        rfl
      · exact fun hlt => absurd heq (Nat.ne_of_lt hlt)
      · rw [if_neg fun h => Nat.ne_of_lt h.1 heq]
  | succ count ih =>
      have hlt : start < total := by omega
      have hleft : start + 1 + count = total := by omega
      obtain ⟨first, hfirst⟩ := sendIoctlWithRetry_tried (hchunked.accepted start hlt)
        (UInt32.ofNat start) (a.tries (UInt32.ofNat start)) s
      rw [pushChunks, if_neg (not_not_intro (halloc start hlt)), hchunked.buffer_eq start hlt]
      have hnext : UInt32.ofNat start + 1 = UInt32.ofNat (start + 1) := (UInt32.ofNat_add start 1).symm
      by_cases hok : NT_SUCCESS (sendIoctlWithRetry (UInt32.ofNat start) (buffers start)
          (a.tries (UInt32.ofNat start)) s).1 = true
      · obtain ⟨r', k, rest, hrun, hrest⟩ := ih hleft (sendIoctlWithRetry (UInt32.ofNat start)
          (buffers start) (a.tries (UInt32.ofNat start)) s).2
        refine ⟨r', k, first ++ rest, ?_,
          hrest.cons hlt htotal (hchunked.counted_eq start hlt) hfirst hok⟩
        rw [← hnext] at hrun
        exact (if_pos hok).trans hrun
      · exact ⟨_, start, first, if_neg hok,
          .failed hlt htotal hfirst (Bool.eq_false_iff.mpr hok)⟩

/-- **A frame gets through** where every chunk has a good try among its four, by
induction on the chunks that are left. -/
theorem pushChunks_good {buffer : UInt32 → Option (List UInt8)}
    (hchunked : Chunked buffer total buffers payloadBytes) {a : ChunkAnswers}
    (halloc : ∀ i, i < total → a.alloc (UInt32.ofNat i) = true)
    (hgood : ∀ chunkIndex, ∃ retry, retry ≤ kMaxRetries ∧ (a.tries chunkIndex retry).Good)
    {count start : Nat} (hstart : start + count = total) {s : PushState}
    (hparent : s.pipeline.parentDevice = true) :
    ∃ s', pushChunks buffer a count (UInt32.ofNat start) s = some (true, s') := by
  induction count generalizing start s with
  | zero => exact ⟨s, rfl⟩
  | succ count ih =>
      have hlt : start < total := by omega
      have hnext : UInt32.ofNat start + 1 = UInt32.ofNat (start + 1) := (UInt32.ofNat_add start 1).symm
      obtain ⟨retry, hretry, htry⟩ := hgood (UInt32.ofNat start)
      have hok : NT_SUCCESS (sendIoctlWithRetry (UInt32.ofNat start) (buffers start)
          (a.tries (UInt32.ofNat start)) s).1 = true :=
        retryLoop_good (hchunked.accepted start hlt) _ htry hretry (Nat.le_add_left _ _) _ hparent
      have hparent' : (sendIoctlWithRetry (UInt32.ofNat start) (buffers start)
          (a.tries (UInt32.ofNat start)) s).2.pipeline.parentDevice = true :=
        (retryLoop_parentDevice _ _ _ _ _ s).trans hparent
      obtain ⟨s', hrest⟩ := ih (show start + 1 + count = total by omega) hparent'
      refine ⟨s', ?_⟩
      rw [pushChunks, if_neg (not_not_intro (halloc start hlt)), hchunked.buffer_eq start hlt]
      rw [← hnext] at hrest
      exact (if_pos hok).trans hrest

end Frame

section Geometry

/-! ## The pixels and their chunks -/

/-- A colour in RGB565: five bits of red above six of green and five of blue, each the
upper bits of its byte. -/
def colour565 (b g r : UInt8) : Nat := r.toNat / 8 * 2048 + g.toNat / 4 * 32 + b.toNat / 8

theorem and_f8 : ∀ n < 256, n &&& 0xF8 = n / 8 * 8 := by decide +kernel

theorem and_fc : ∀ n < 256, n &&& 0xFC = n / 4 * 4 := by decide +kernel

/-- **The conversion of a pixel** masks and shifts the bits of its colour into place. -/
theorem rgb565_toNat (b g r : UInt8) : (rgb565 b g r).toNat = colour565 b g r := by
  have hr : r.toNat < 256 := r.toNat_lt
  have hg : g.toNat < 256 := g.toNat_lt
  have hb : b.toNat < 256 := b.toNat_lt
  have hred : ((r.toUInt16 &&& 0xF8) <<< 8).toNat = 2 ^ 11 * (r.toNat / 8) := by
    rw [UInt16.toNat_shiftLeft, UInt16.toNat_and, UInt8.toNat_toUInt16, Nat.shiftLeft_eq]
    show (r.toNat &&& 0xF8) * 2 ^ 8 % 2 ^ 16 = _
    rw [and_f8 _ hr]
    omega
  have hgreen : ((g.toUInt16 &&& 0xFC) <<< 3).toNat = 2 ^ 5 * (g.toNat / 4) := by
    rw [UInt16.toNat_shiftLeft, UInt16.toNat_and, UInt8.toNat_toUInt16, Nat.shiftLeft_eq]
    show (g.toNat &&& 0xFC) * 2 ^ 3 % 2 ^ 16 = _
    rw [and_fc _ hg]
    omega
  have hblue : (b.toUInt16 >>> 3).toNat = b.toNat / 8 := by
    rw [UInt16.toNat_shiftRight, UInt8.toNat_toUInt16, Nat.shiftRight_eq_div_pow]
    rfl
  -- The three fields do not overlap, so or-ing them adds them up.
  have hblueLt : b.toNat / 8 < 2 ^ 5 := by omega
  have hlow : 2 ^ 5 * (g.toNat / 4) + b.toNat / 8 < 2 ^ 11 := by omega
  rw [rgb565, UInt16.toNat_or, UInt16.toNat_or, hred, hgreen, hblue, Nat.or_assoc,
    ← Nat.two_pow_add_eq_or_of_lt hblueLt, ← Nat.two_pow_add_eq_or_of_lt hlow, colour565]
  omega

theorem rgb565_eq (b g r : UInt8) : rgb565 b g r = UInt16.ofNat (colour565 b g r) := by
  rw [← rgb565_toNat, UInt16.ofNat_toNat]

/-- A pixel of the surface in RGB565, whose bytes are blue, green and red. -/
def Surface.pixelAt (surface : Surface) (row x : Nat) : UInt16 :=
  let pixel := row * surface.pitch.toNat + 4 * x
  .ofNat (colour565 (surface.pBits pixel) (surface.pBits (pixel + 1)) (surface.pBits (pixel + 2)))

def Surface.rowPixels (surface : Surface) (row : Nat) : List UInt16 :=
  (List.range surface.width.toNat).map (surface.pixelAt row)

/-- **The row-major RGB565 conversion** of a surface. -/
def Surface.pixels (surface : Surface) : List UInt16 :=
  (List.range surface.height.toNat).flatMap surface.rowPixels

/-- The payload of a frame: its pixels in memory. -/
def Surface.payload (surface : Surface) : List UInt8 := surface.pixels.flatMap (store16 .little)

/-- A surface whose sizes the arithmetic of the pipeline can hold. -/
structure Surface.Fits (surface : Surface) : Prop where
  width_pos : 0 < surface.width.toNat
  height_pos : 0 < surface.height.toNat
  payload_lt : 2 * surface.width.toNat * surface.height.toNat < 2 ^ 32 - ChunkSize.toNat
  pitch_ge : 4 * surface.width.toNat ≤ surface.pitch.toNat
  pitch_lt : surface.height.toNat * surface.pitch.toNat < 2 ^ 32

/-- A surface whose frame the arithmetic of the pipeline can hold, whatever its rows are
read from. -/
structure Surface.Sized (surface : Surface) : Prop where
  payload_lt : 2 * surface.width.toNat * surface.height.toNat + 16351 < 2 ^ 32

theorem Surface.Fits.sized {surface : Surface} (h : surface.Fits) : surface.Sized := by
  have hchunk : ChunkSize.toNat = 16384 := rfl
  have hlt := h.payload_lt
  exact ⟨by omega⟩

theorem ofNat_mul_mod (n : Nat) (v : UInt32) : (UInt32.ofNat n * v).toNat = n * v.toNat % 2 ^ 32 := by
  rw [UInt32.toNat_mul, UInt32.toNat_ofNat', Nat.mul_mod, Nat.mod_mod, ← Nat.mul_mod]

theorem ofNat_mul_toNat {n : Nat} {v : UInt32} (h : n * v.toNat < 2 ^ 32) :
    (UInt32.ofNat n * v).toNat = n * v.toNat :=
  (ofNat_mul_mod n v).trans (Nat.mod_eq_of_lt h)

variable {surface : Surface}

theorem Surface.Sized.payloadBytes_eq (h : surface.Sized) :
    surface.payloadBytes.toNat = 2 * surface.width.toNat * surface.height.toNat := by
  have hlt := h.payload_lt
  have hprod : surface.width.toNat * surface.height.toNat * 2 =
      2 * surface.width.toNat * surface.height.toNat := by
    rw [Nat.mul_comm _ 2, Nat.mul_assoc]
  rw [payloadBytes, UInt32.toNat_mul, UInt32.toNat_mul]
  have htwo : (2 : UInt32).toNat = 2 := rfl
  rw [htwo, Nat.mul_mod, Nat.mod_mod, ← Nat.mul_mod, hprod]
  exact Nat.mod_eq_of_lt (by omega)

/-- One row of the loop is one row of pixels. -/
theorem convertRow_eq (h : surface.Fits) {row : Nat} (hrow : row < surface.height.toNat) :
    convertBgraToRgb565
      (fun i => surface.pBits ((UInt32.ofNat row * surface.pitch).toNat + i)) surface.width =
      surface.rowPixels row := by
  have hpitch := h.pitch_lt
  have hge := h.pitch_ge
  have hone : 1 * surface.pitch.toNat ≤ surface.height.toNat * surface.pitch.toNat :=
    Nat.mul_le_mul_right _ h.height_pos
  have hoffset : row * surface.pitch.toNat ≤ surface.height.toNat * surface.pitch.toNat :=
    Nat.mul_le_mul_right _ (Nat.le_of_lt hrow)
  rw [convertBgraToRgb565, Surface.rowPixels, ofNat_mul_toNat (Nat.lt_of_le_of_lt hoffset hpitch)]
  apply List.map_congr_left
  intro x hx
  rw [List.mem_range] at hx
  have hfour : (4 : UInt32).toNat = 4 := rfl
  have hpixel : (UInt32.ofNat x * 4).toNat = 4 * x := by
    rw [ofNat_mul_toNat (by rw [hfour]; omega), hfour, Nat.mul_comm]
  rw [hpixel]
  exact rgb565_eq _ _ _

/-- One row as the loop converts it. -/
def Surface.convertedRow (surface : Surface) (row : Nat) : List UInt16 :=
  convertBgraToRgb565 (fun i => surface.pBits ((UInt32.ofNat row * surface.pitch).toNat + i))
    surface.width

/-- **The loop over the rows** fills the frame buffer and writes nothing outside it. -/
theorem convertRows_filled (h : surface.Sized) {block : List UInt16}
    (hblock : block.length = surface.height.toNat * surface.width.toNat) :
    convertRows surface block = some ((List.range surface.height.toNat).flatMap surface.convertedRow) := by
  have hlt := h.payload_lt
  have hlength : ∀ row, (surface.convertedRow row).length = surface.width.toNat := by
    intro row
    rw [Surface.convertedRow, convertBgraToRgb565, List.length_map, List.length_range]
  have hpos : ∀ row, row < surface.height.toNat →
      (UInt32.ofNat row * surface.width).toNat = row * surface.width.toNat := by
    intro row hrow
    have hle : row * surface.width.toNat ≤ surface.height.toNat * surface.width.toNat :=
      Nat.mul_le_mul_right _ (Nat.le_of_lt hrow)
    rw [Nat.mul_assoc, Nat.mul_comm surface.width.toNat] at hlt
    exact ofNat_mul_toNat (by omega)
  exact writeRows_eq hlength hpos hblock

/-- **The conversion** of a surface that fits is that of its pixels. -/
theorem convertRows_eq (h : surface.Fits) {block : List UInt16}
    (hblock : block.length = surface.height.toNat * surface.width.toNat) :
    convertRows surface block = some surface.pixels := by
  have hrows : (List.range surface.height.toNat).map surface.convertedRow =
      (List.range surface.height.toNat).map surface.rowPixels := by
    apply List.map_congr_left
    intro row hrow
    exact convertRow_eq h (List.mem_range.mp hrow)
  rw [convertRows_filled h.sized hblock, Surface.pixels, List.flatMap_def, List.flatMap_def, hrows]

/-- As many pixels as the surface has. -/
theorem Surface.pixels_length (surface : Surface) :
    surface.pixels.length = surface.height.toNat * surface.width.toNat := by
  rw [pixels, List.length_flatMap]
  have hrows : ((List.range surface.height.toNat).map fun row => (surface.rowPixels row).length) =
      List.replicate surface.height.toNat surface.width.toNat := by
    rw [List.eq_replicate_iff]
    refine ⟨by rw [List.length_map, List.length_range], fun n hn => ?_⟩
    obtain ⟨row, _, rfl⟩ := List.mem_map.mp hn
    rw [rowPixels, List.length_map, List.length_range]
  rw [hrows, List.sum_replicate_nat]

theorem Surface.Sized.payload_length (h : surface.Sized) :
    surface.payload.length = surface.payloadBytes.toNat := by
  rw [Surface.payload, flatMap_store16_length, Surface.pixels_length, h.payloadBytes_eq,
    Nat.mul_assoc, Nat.mul_comm surface.width.toNat]

theorem chunkDataSize_toNat : chunkDataSize.toNat = 16352 := rfl

/-- The number of chunks, computed without overflow. -/
theorem Surface.Sized.totalChunks_eq (h : surface.Sized) :
    (totalChunks surface.payloadBytes).toNat = (surface.payload.length + 16352 - 1) / 16352 := by
  have hlt := h.payload_lt
  have hpayload := h.payloadBytes_eq
  have hsum : (surface.payloadBytes + chunkDataSize - 1).toNat =
      surface.payloadBytes.toNat + 16352 - 1 := by
    have hone : (1 : UInt32).toNat = 1 := rfl
    rw [UInt32.toNat_sub, UInt32.toNat_add, chunkDataSize_toNat, hone]
    omega
  rw [totalChunks, UInt32.toNat_div, hsum, chunkDataSize_toNat, h.payload_length]

/-- The header of chunk `i`. -/
def Surface.chunkHeader (surface : Surface) (frameId : UInt32) (i : Nat) : ChunkHeader :=
  { frameId := frameId
    chunkIndex := UInt32.ofNat i
    totalChunks := totalChunks surface.payloadBytes
    chunkBytes := UInt32.ofNat (min 16352 (surface.payload.length - i * 16352))
    width := surface.width
    height := surface.height
    pixelFormat := pixelFormatRgb565
    totalBytes := surface.payloadBytes }

/-- What chunk `i` carries. -/
def Surface.chunkData (surface : Surface) (i : Nat) : List UInt8 :=
  (surface.payload.drop (i * 16352)).take 16352

/-- Chunk `i` as it is sent. -/
def Surface.chunk (surface : Surface) (frameId : UInt32) (i : Nat) : List UInt8 :=
  (surface.chunkHeader frameId i).toBytes ++ surface.chunkData i

theorem flatMap_store16_drop (ps : List Pixel) {n : Nat} (h : n ≤ ps.length) :
    (ps.drop n).flatMap (store16 .little) = (ps.flatMap (store16 .little)).drop (2 * n) := by
  have hlength : ((ps.take n).flatMap (store16 .little)).length = 2 * n := by
    rw [flatMap_store16_length, List.length_take_of_le h]
  conv => rhs; rw [← List.take_append_drop n ps]
  rw [List.flatMap_append, ← hlength, List.drop_left]

/-- **Every chunk** is its header and its part of the pixels, and the copy stays inside
the frame buffer. -/
theorem chunkBuffer_inside (h : surface.Sized) (frameId : UInt32) {pixelData : List UInt16}
    (hpixelData : pixelData.length = surface.height.toNat * surface.width.toNat) {i : Nat}
    (hi : i < (totalChunks surface.payloadBytes).toNat) :
    chunkBuffer surface frameId pixelData (UInt32.ofNat i) =
      some ((surface.chunkHeader frameId i).toBytes ++
        ((pixelData.flatMap (store16 .little)).drop (i * 16352)).take 16352) := by
  have hlt := h.payload_lt
  have hbytes := h.payloadBytes_eq
  have hlength := h.payload_length
  have hcount := h.totalChunks_eq
  have hpixels := surface.pixels_length
  have hsize : surface.payload.length = 2 * surface.pixels.length := flatMap_store16_length _ _
  have hdata : (pixelData.flatMap (store16 .little)).length = 2 * pixelData.length :=
    flatMap_store16_length _ _
  have hbefore : i * 16352 < surface.payload.length := by
    rw [hcount] at hi
    have hle : (i + 1) * 16352 ≤ surface.payload.length + 16352 - 1 :=
      (Nat.le_div_iff_mul_le (by decide)).mp hi
    omega
  have hoffset : (UInt32.ofNat i * chunkDataSize).toNat = i * 16352 := by
    rw [ofNat_mul_toNat (by rw [chunkDataSize_toNat]; omega), chunkDataSize_toNat]
  have hremaining : (surface.payloadBytes - UInt32.ofNat i * chunkDataSize).toNat =
      surface.payload.length - i * 16352 := by
    rw [UInt32.toNat_sub_of_le _ _ (by rw [UInt32.le_iff_toNat_le]; omega), hoffset, hlength]
  have hcurrent : (if surface.payloadBytes - UInt32.ofNat i * chunkDataSize < chunkDataSize then
      surface.payloadBytes - UInt32.ofNat i * chunkDataSize else chunkDataSize) =
      UInt32.ofNat (min 16352 (surface.payload.length - i * 16352)) := by
    rw [← UInt32.toNat_inj, toNat_ofNat_lt (by omega)]
    by_cases hless : surface.payloadBytes - UInt32.ofNat i * chunkDataSize < chunkDataSize
    · rw [if_pos hless, hremaining]
      rw [UInt32.lt_iff_toNat_lt, hremaining, chunkDataSize_toNat] at hless
      omega
    · rw [if_neg hless, chunkDataSize_toNat]
      rw [UInt32.lt_iff_toNat_lt, hremaining, chunkDataSize_toNat] at hless
      omega
  have hhalf : (UInt32.ofNat i * chunkDataSize / 2).toNat = i * 8176 := by
    have htwo : (2 : UInt32).toNat = 2 := rfl
    rw [UInt32.toNat_div, hoffset, htwo]
    omega
  have hsource : (pixelData.drop (i * 8176)).flatMap (store16 .little) =
      (pixelData.flatMap (store16 .little)).drop (i * 16352) := by
    have hdouble : 2 * (i * 8176) = i * 16352 := by omega
    rw [flatMap_store16_drop pixelData (by omega), hdouble]
  have htake : min 16352 (surface.payload.length - i * 16352) < 2 ^ 32 := by omega
  unfold chunkBuffer
  simp only [hcurrent, hhalf, hsource, toNat_ofNat_lt htake]
  have hinside : ¬ ((pixelData.flatMap (store16 .little)).drop (i * 16352)).length <
      min 16352 (surface.payload.length - i * 16352) := by
    rw [List.length_drop]
    omega
  rw [if_neg hinside, Surface.chunkHeader]
  congr 2
  rw [List.take_eq_take_iff, List.length_drop]
  omega

theorem chunkBuffer_eq (h : surface.Fits) (frameId : UInt32) {i : Nat}
    (hi : i < (totalChunks surface.payloadBytes).toNat) :
    chunkBuffer surface frameId surface.pixels (UInt32.ofNat i) =
      some (surface.chunk frameId i) :=
  chunkBuffer_inside h.sized frameId surface.pixels_length hi

theorem load32_store32 (v : UInt32) :
    v.toUInt8.toUInt32 ||| ((v >>> 8).toUInt8.toUInt32 <<< 8) |||
      ((v >>> 16).toUInt8.toUInt32 <<< 16) ||| ((v >>> 24).toUInt8.toUInt32 <<< 24) = v := by
  apply UInt32.toBitVec_inj.mp
  simp only [UInt32.toBitVec_or, UInt32.toBitVec_shiftLeft, UInt8.toBitVec_toUInt32,
    UInt32.toBitVec_toUInt8, UInt32.toBitVec_shiftRight]
  ext i hi
  simp
  grind

/-- **The transport reads the header** the pipeline wrote. -/
theorem ChunkHeader.read_toBytes (h : ChunkHeader) (rest : List UInt8) :
    ChunkHeader.read (h.toBytes ++ rest) = h := by
  have hframeId : load32 (h.toBytes ++ rest) 0 = h.frameId := load32_store32 _
  have hchunkIndex : load32 (h.toBytes ++ rest) 4 = h.chunkIndex := load32_store32 _
  have htotalChunks : load32 (h.toBytes ++ rest) 8 = h.totalChunks := load32_store32 _
  have hchunkBytes : load32 (h.toBytes ++ rest) 12 = h.chunkBytes := load32_store32 _
  have hwidth : load32 (h.toBytes ++ rest) 16 = h.width := load32_store32 _
  have hheight : load32 (h.toBytes ++ rest) 20 = h.height := load32_store32 _
  have hpixelFormat : load32 (h.toBytes ++ rest) 24 = h.pixelFormat := load32_store32 _
  have htotalBytes : load32 (h.toBytes ++ rest) 28 = h.totalBytes := load32_store32 _
  rw [ChunkHeader.read, hframeId, hchunkIndex, htotalChunks, hchunkBytes, hwidth, hheight,
    hpixelFormat, htotalBytes]

theorem ChunkHeader.toBytes_length (h : ChunkHeader) : h.toBytes.length = sizeofChunkHeader := rfl

/-- The pieces the chunks carry are the payload, cut. -/
theorem Surface.Fits.chunkData_eq (h : surface.Fits) :
    (List.range (totalChunks surface.payloadBytes).toNat).map surface.chunkData =
      cut 16352 surface.payload := by
  rw [h.sized.totalChunks_eq, cut]
  rfl

/-- What a chunk says about its own size is true. -/
theorem Surface.Fits.chunkBytes_eq (h : surface.Fits) (frameId : UInt32) (i : Nat) :
    (surface.chunkHeader frameId i).chunkBytes.toNat = (surface.chunkData i).length := by
  have hlt := h.payload_lt
  rw [Surface.chunkHeader, toNat_ofNat_lt (by omega), Surface.chunkData, List.length_take,
    List.length_drop]

/-- Before the end of the payload there is something to carry. -/
theorem Surface.Fits.chunkData_pos (h : surface.Fits) {i : Nat}
    (hi : i < (totalChunks surface.payloadBytes).toNat) : 0 < (surface.chunkData i).length := by
  rw [h.sized.totalChunks_eq] at hi
  have hle : (i + 1) * 16352 ≤ surface.payload.length + 16352 - 1 :=
    (Nat.le_div_iff_mul_le (by decide)).mp hi
  rw [Surface.chunkData, List.length_take, List.length_drop]
  omega

/-- **The chunks of a surface** are what the loop needs. -/
theorem Surface.Fits.chunked (h : surface.Fits) (frameId : UInt32) :
    Chunked (chunkBuffer surface frameId surface.pixels) (totalChunks surface.payloadBytes).toNat
      (surface.chunk frameId) surface.payloadBytes where
  total_lt := UInt32.toNat_lt _
  buffer_eq := fun i hi => chunkBuffer_eq h frameId hi
  accepted := by
    intro i hi
    have hread := (surface.chunkHeader frameId i).read_toBytes (surface.chunkData i)
    have htotal : (totalChunks surface.payloadBytes).toNat < 2 ^ 32 := UInt32.toNat_lt _
    constructor
    · rw [Surface.chunk, List.length_append, ChunkHeader.toBytes_length]
      exact Nat.le_add_right _ _
    · rw [Surface.chunk, hread]
      intro hcase
      rcases hcase with hbytes | hnone | hindex
      · have hpos := h.chunkData_pos hi
        rw [← h.chunkBytes_eq frameId i, hbytes] at hpos
        exact absurd hpos (Nat.lt_irrefl 0)
      · have hzero : (totalChunks surface.payloadBytes).toNat = 0 := congrArg UInt32.toNat hnone
        omega
      · have hle : (totalChunks surface.payloadBytes).toNat ≤ (UInt32.ofNat i).toNat := hindex
        rw [toNat_ofNat_lt (by omega)] at hle
        omega
  counted_eq := by
    intro i hi statistics
    have hread := (surface.chunkHeader frameId i).read_toBytes (surface.chunkData i)
    have htotal : (totalChunks surface.payloadBytes).toNat < 2 ^ 32 := UInt32.toNat_lt _
    have hlast : UInt32.ofNat i = totalChunks surface.payloadBytes - 1 ↔
        i + 1 = (totalChunks surface.payloadBytes).toNat := by
      have hone : (1 : UInt32) ≤ totalChunks surface.payloadBytes := by
        have hnat : (1 : UInt32).toNat = 1 := rfl
        rw [UInt32.le_iff_toNat_le, hnat]
        omega
      have hnat : (1 : UInt32).toNat = 1 := rfl
      rw [← UInt32.toNat_inj, toNat_ofNat_lt (by omega), UInt32.toNat_sub_of_le _ _ hone, hnat]
      omega
    unfold counted
    rw [Surface.chunk, hread]
    exact if_congr hlast rfl rfl

end Geometry

section Delivery

/-! ## A present -/

variable {surface : Surface} {frameCounter : UInt32} {s : PushState} {a : PresentAnswers}

/-- The present gets its target, its surface and its buffers. -/
structure Obtained (s : PushState) (a : PresentAnswers) (surface : Surface) : Prop where
  target : NT_SUCCESS (ensureTransportTarget s.pipeline a.target).1 = true
  getBuffer : NT_SUCCESS a.getBuffer = true
  desc : a.desc = some ⟨surface.width, surface.height, DXGI_FORMAT_B8G8R8A8_UNORM⟩
  mapped : a.mapped = some (surface.pitch, surface.pBits)
  frameBuffer : a.frameBuffer.isSome
  chunks : ∀ chunkIndex, a.chunks.alloc chunkIndex = true

/-- **A frame delivered up to chunk `k`.**  The chunks before it are written in order
and once, each accepted by the transport and at most `ChunkSize` long.  No chunk is
tried more than four times, nothing after chunk `k` is tried, and the frame is whole
unless chunk `k` failed all its tries.  A whole frame carries all its pixels and is
counted once. -/
structure Delivered (surface : Surface) (frameId : UInt32) (s : PushState) (p : Presented) (k : Nat)
    (tries : List Attempt) : Prop where
  attempts_eq : p.push.attempts = s.attempts ++ tries
  le_total : k ≤ (totalChunks surface.payloadBytes).toNat
  written : tries.filterMap Attempt.written = (List.range k).map (surface.chunk frameId)
  accepted : ∀ i, i < k → ChunkAccepted (surface.chunk frameId i) ∧
    (surface.chunk frameId i).length ≤ ChunkSize.toNat
  status_eq : ∀ t ∈ tries, NT_SUCCESS t.status = t.written.isSome
  tried_to : ∀ t ∈ tries, t.chunkIndex.toNat ≤ k
  tries_le : ∀ chunkIndex, triesOf tries chunkIndex ≤ kMaxRetries + 1
  cause : k < (totalChunks surface.payloadBytes).toNat →
    triesOf tries (UInt32.ofNat k) = kMaxRetries + 1 ∧
      ∀ t ∈ tries, t.chunkIndex = UInt32.ofNat k → NT_SUCCESS t.status = false
  bytes : k = (totalChunks surface.payloadBytes).toNat →
    ((List.range k).map fun i =>
      (ChunkHeader.read (surface.chunk frameId i)).chunkBytes.toNat).sum =
      surface.payloadBytes.toNat
  payload : k = (totalChunks surface.payloadBytes).toNat →
    ((List.range k).map fun i => (surface.chunk frameId i).drop sizeofChunkHeader).flatten =
      surface.payload
  allChunksSent : p.allChunksSent = decide (k = (totalChunks surface.payloadBytes).toNat)
  statistics : p.push.transport.statistics =
    if k = (totalChunks surface.payloadBytes).toNat then
      { s.transport.statistics with
        framesSubmitted := s.transport.statistics.framesSubmitted + 1
        bytesTransferred := s.transport.statistics.bytesTransferred +
          UInt64.ofNat (2 * surface.width.toNat * surface.height.toNat) }
    else s.transport.statistics

/-- A present that gets all it needs comes to its chunks. -/
theorem pipelineHandlePresent_eq (hobtained : Obtained s a surface) (hfits : surface.Fits) :
    pipelineHandlePresent frameCounter s a =
      (pushChunks (chunkBuffer surface (frameCounter + 1) surface.pixels) a.chunks
        (totalChunks surface.payloadBytes).toNat 0
        { s with pipeline := (ensureTransportTarget s.pipeline a.target).2 }).map fun sent =>
          ⟨frameCounter + 1, sent.2, sent.1⟩ := by
  obtain ⟨garbage, hgarbage⟩ := Option.isSome_iff_exists.mp hobtained.frameBuffer
  have hwidth : surface.width ≠ 0 := by
    intro hzero
    have hpos := hfits.width_pos
    rw [hzero] at hpos
    exact absurd hpos (Nat.lt_irrefl 0)
  have hheight : surface.height ≠ 0 := by
    intro hzero
    have hpos := hfits.height_pos
    rw [hzero] at hpos
    exact absurd hpos (Nat.lt_irrefl 0)
  have hblock : ((List.range (surface.payloadBytes.toNat / 2)).map garbage).length =
      surface.height.toNat * surface.width.toNat := by
    rw [List.length_map, List.length_range, hfits.sized.payloadBytes_eq, Nat.mul_assoc,
      Nat.mul_div_cancel_left _ (by decide), Nat.mul_comm]
  unfold pipelineHandlePresent
  rw [hobtained.desc, hobtained.mapped, hgarbage]
  simp only [hobtained.target, hobtained.getBuffer, hwidth, hheight, not_true_eq_false, if_false,
    ne_eq, false_or]
  rw [convertRows_eq hfits hblock]
  simp only [Option.bind_eq_bind, Option.bind_some]
  rw [Option.map_eq_bind]
  rfl

/-- **Frame delivery.**  Every present of a surface that fits, whatever opens, requests
and bulk writes fail, runs to its end without a memory fault, and leaves a frame
delivered up to some chunk. -/
theorem present_delivers (frameCounter : UInt32) (hobtained : Obtained s a surface) (hfits : surface.Fits) :
    ∃ p k tries, pipelineHandlePresent frameCounter s a = some p ∧
      Delivered surface (frameCounter + 1) s p k tries := by
  obtain ⟨r, k, tries, hrun, hpushed⟩ := pushChunks_pushed (hfits.chunked (frameCounter + 1))
    (fun i _ => hobtained.chunks (UInt32.ofNat i)) (Nat.zero_add _)
    { s with pipeline := (ensureTransportTarget s.pipeline a.target).2 }
  have hzero : UInt32.ofNat 0 = 0 := rfl
  have hread : ∀ i, ChunkHeader.read (surface.chunk (frameCounter + 1) i) =
      surface.chunkHeader (frameCounter + 1) i := fun i => ChunkHeader.read_toBytes _ _
  have hdata : ∀ i, (surface.chunk (frameCounter + 1) i).drop sizeofChunkHeader =
      surface.chunkData i := fun i => List.drop_left' (ChunkHeader.toBytes_length _)
  have hpieces : ((List.range (totalChunks surface.payloadBytes).toNat).map
      surface.chunkData).flatten = surface.payload := by
    rw [hfits.chunkData_eq, cut_flatten (by decide)]
  refine ⟨⟨frameCounter + 1, r.2, r.1⟩, k, tries, ?_, ?_⟩
  · rw [pipelineHandlePresent_eq hobtained hfits]
    rw [hzero] at hrun
    rw [hrun]
    rfl
  refine
    { attempts_eq := hpushed.attempts_eq
      le_total := hpushed.le_total
      written := ?_
      accepted := ?_
      status_eq := hpushed.status_eq
      tried_to := fun t ht => (hpushed.range t ht).2.1
      tries_le := hpushed.tries_le
      cause := hpushed.cause
      bytes := ?_
      payload := ?_
      allChunksSent := hpushed.sent
      statistics := ?_ }
  · rw [hpushed.written, Nat.sub_zero, List.range_eq_range']
  · intro i hi
    have hsize : (surface.chunkData i).length ≤ 16352 := List.length_take_le _ _
    refine ⟨(hfits.chunked _).accepted i (Nat.lt_of_lt_of_le hi hpushed.le_total), ?_⟩
    rw [Surface.chunk, List.length_append, ChunkHeader.toBytes_length]
    exact Nat.add_le_add_left hsize 32
  · intro hk
    have hlengths : ((List.range k).map fun i =>
        (ChunkHeader.read (surface.chunk (frameCounter + 1) i)).chunkBytes.toNat) =
        ((List.range k).map surface.chunkData).map List.length := by
      rw [List.map_map]
      apply List.map_congr_left
      intro i _
      rw [hread, hfits.chunkBytes_eq]
      rfl
    rw [hlengths, ← List.length_flatten, hk, hpieces, hfits.sized.payload_length]
  · intro hk
    simp only [hdata]
    rw [hk]
    exact hpieces
  · have hpos : 0 < (totalChunks surface.payloadBytes).toNat := by
      have hwidth := hfits.width_pos
      have hheight := hfits.height_pos
      have harea : 0 < surface.width.toNat * surface.height.toNat := Nat.mul_pos hwidth hheight
      have hlength := hfits.sized.payload_length
      rw [hfits.sized.payloadBytes_eq, Nat.mul_assoc] at hlength
      rw [hfits.sized.totalChunks_eq]
      exact Nat.div_pos (by omega) (by decide)
    have hbytes : surface.payloadBytes.toUInt64 =
        UInt64.ofNat (2 * surface.width.toNat * surface.height.toNat) := by
      rw [← hfits.sized.payloadBytes_eq]
      exact UInt64.toNat_inj.mp (by simp)
    have hstatistics := hpushed.statistics
    simp only [hpos, true_and, Statistics.count, hbytes] at hstatistics
    exact hstatistics

/-- **A whole frame.**  Where every chunk has a good try among its four, all chunks are
sent. -/
theorem pipelineHandlePresent_good (frameCounter : UInt32) (hobtained : Obtained s a surface)
    (hfits : surface.Fits) (hparent : s.pipeline.parentDevice = true)
    (hgood : ∀ chunkIndex, ∃ retry, retry ≤ kMaxRetries ∧
      (a.chunks.tries chunkIndex retry).Good) :
    ∃ p, pipelineHandlePresent frameCounter s a = some p ∧ p.allChunksSent = true := by
  have hkept : (ensureTransportTarget s.pipeline a.target).2.parentDevice = true :=
    (ensureTransportTarget_parentDevice _ _).trans hparent
  obtain ⟨s', hrun⟩ := pushChunks_good (hfits.chunked (frameCounter + 1))
    (fun i _ => hobtained.chunks (UInt32.ofNat i)) hgood (Nat.zero_add _)
    (s := { s with pipeline := (ensureTransportTarget s.pipeline a.target).2 }) hkept
  have hzero : UInt32.ofNat 0 = 0 := rfl
  rw [hzero] at hrun
  rw [pipelineHandlePresent_eq hobtained hfits, hrun]
  exact ⟨_, rfl, rfl⟩

/-- The panel's own size, in all the colours a byte can have. -/
def panelSurface : Surface := ⟨320, 240, 1280, UInt8.ofNat⟩

/-- A pipeline without a target, over a device that is plugged in. -/
def idleState : PushState := ⟨⟨true, false⟩, step .created (.prepareHardware pluggedIn), [], []⟩

/-- The bulk write of every chunk fails at the first try. -/
def panelPresent : PresentAnswers :=
  { target := ⟨STATUS_SUCCESS, true, STATUS_SUCCESS, STATUS_SUCCESS⟩
    getBuffer := STATUS_SUCCESS
    desc := some ⟨320, 240, DXGI_FORMAT_B8G8R8A8_UNORM⟩
    mapped := some (1280, UInt8.ofNat)
    frameBuffer := some fun _ => 0
    chunks :=
      { alloc := fun _ => true
        tries := fun _ retry =>
          { target := ⟨STATUS_SUCCESS, true, STATUS_SUCCESS, STATUS_SUCCESS⟩
            delivery := STATUS_SUCCESS
            ioctl := if retry = 0 then ⟨STATUS_SUCCESS, STATUS_UNSUCCESSFUL, STATUS_SUCCESS⟩
              else allGood } } }

/-- All ten chunks are delivered, each at a later try than its first. -/
theorem present_delivers_panel :
    ∃ p tries, pipelineHandlePresent 0 idleState panelPresent = some p ∧
      Delivered panelSurface (0 + 1) idleState p 10 tries ∧ p.allChunksSent = true := by
  have hobtained : Obtained idleState panelPresent panelSurface :=
    ⟨by decide, by decide, rfl, rfl, rfl, fun _ => rfl⟩
  have hfits : panelSurface.Fits := ⟨by decide, by decide, by decide, by decide, by decide⟩
  have hsecond : ∀ chunkIndex, ∃ retry, retry ≤ kMaxRetries ∧
      (panelPresent.chunks.tries chunkIndex retry).Good :=
    fun _ => ⟨1, by decide, rfl, rfl, rfl, rfl⟩
  have hten : (totalChunks panelSurface.payloadBytes).toNat = 10 := by decide
  obtain ⟨p, k, tries, hrun, hdelivered⟩ := present_delivers 0 hobtained hfits
  obtain ⟨p', hrun', hsent⟩ := pipelineHandlePresent_good 0 hobtained hfits rfl hsecond
  obtain rfl : p = p' := Option.some.inj (hrun.symm.trans hrun')
  have hk : k = 10 := by
    have hall := hdelivered.allChunksSent
    rw [hsent, hten] at hall
    exact of_decide_eq_true hall.symm
  rw [hk] at hdelivered
  exact ⟨p, tries, hrun, hdelivered, hsent⟩

end Delivery

end Windows

end RpUsbDisp
