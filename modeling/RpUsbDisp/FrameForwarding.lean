import Mathlib.Data.Finset.Card
import Mathlib.Order.Interval.Finset.Nat
import RpUsbDisp.Pipeline
import RpUsbDisp.Runs

/-!
# What the transport forwards

`IOCTL_RPUSB_PUSH_FRAME` and `IOCTL_RPUSB_PUSH_FRAME_CHUNK` hand a buffer to the bulk
pipe as it is.  Its header says how large it is, how large its frame is and which part
of the frame it carries.  The driver looks at the header for zeros and for a chunk index
out of range, and after that believes it: a buffer is written whatever its header says
of its size, and the statistics count what the header of a frame or of a last chunk
claims.

A tally is kept beside the driver of what has really been written.
`frames_forwarded` compares the two: it says when only consistent buffers are forwarded,
and when the statistics never run ahead of the tally.
-/

section Covering

/-! ## Covering -/

/-- **Pieces that cover** every number below `n` have at least that many together. -/
theorem le_sum_of_covers {α : Type} (start size : α → Nat) (pieces : List α) {n : Nat}
    (hcovers : ∀ b, b < n → ∃ p ∈ pieces, start p ≤ b ∧ b < start p + size p) :
    n ≤ (pieces.map size).sum := by
  have hunion : ∀ pieces : List α, ∃ covered : Finset Nat,
      covered.card ≤ (pieces.map size).sum ∧
        ∀ p ∈ pieces, ∀ b, start p ≤ b → b < start p + size p → b ∈ covered := by
    intro pieces
    induction pieces with
    | nil => exact ⟨∅, Nat.le_refl 0, fun p hp => absurd hp List.not_mem_nil⟩
    | cons p pieces ih =>
        obtain ⟨covered, hcard, hcovered⟩ := ih
        refine ⟨Finset.Ico (start p) (start p + size p) ∪ covered, ?_, ?_⟩
        · calc (Finset.Ico (start p) (start p + size p) ∪ covered).card
              ≤ (Finset.Ico (start p) (start p + size p)).card + covered.card :=
                Finset.card_union_le _ _
            _ = size p + covered.card := by rw [Nat.card_Ico, Nat.add_sub_cancel_left]
            _ ≤ size p + (pieces.map size).sum := Nat.add_le_add_left hcard _
            _ = ((p :: pieces).map size).sum := by rw [List.map_cons, List.sum_cons]
        · intro q hq b hlow hhigh
          rw [Finset.mem_union, Finset.mem_Ico]
          rcases List.mem_cons.mp hq with rfl | hq
          · exact .inl ⟨hlow, hhigh⟩
          · exact .inr (hcovered q hq b hlow hhigh)
  obtain ⟨covered, hcard, hcovered⟩ := hunion pieces
  have hsub : Finset.range n ⊆ covered := by
    intro b hb
    obtain ⟨p, hp, hlow, hhigh⟩ := hcovers b (Finset.mem_range.mp hb)
    exact hcovered p hp b hlow hhigh
  have hle := Finset.card_le_card hsub
  rw [Finset.card_range] at hle
  exact Nat.le_trans hle hcard

end Covering

namespace RpUsbDisp

namespace Windows

/-! ## Headers and bytes -/

/-- The header of a frame agrees with the bytes behind it. -/
structure FrameHeader.Agrees (header : FrameHeader) (length : Nat) : Prop where
  size : sizeofFrameHeader ≤ length
  payload : header.payloadBytes.toNat = length - sizeofFrameHeader
  pixels : header.payloadBytes.toNat = 2 * header.width.toNat * header.height.toNat

/-- Where a chunk lies in its frame. -/
def ChunkHeader.offset (header : ChunkHeader) : Nat := header.chunkIndex.toNat * chunkDataSize.toNat

/-- The header of a chunk agrees with the bytes behind it. -/
structure ChunkHeader.Agrees (header : ChunkHeader) (length : Nat) : Prop where
  size : sizeofChunkHeader ≤ length
  payload : header.chunkBytes.toNat = length - sizeofChunkHeader
  pixels : header.totalBytes.toNat = 2 * header.width.toNat * header.height.toNat
  inside : header.offset + header.chunkBytes.toNat ≤ header.totalBytes.toNat

/-- A request to push a frame or a chunk. -/
def Request.IsPush (r : Request) : Prop :=
  r.ioControlCode = IOCTL_RPUSB_PUSH_FRAME ∨ r.ioControlCode = IOCTL_RPUSB_PUSH_FRAME_CHUNK

/-- **A consistent request**: the header agrees with the bytes supplied. -/
def Request.Agrees (r : Request) : Prop :=
  r.ioControlCode = IOCTL_RPUSB_PUSH_FRAME ∧ (FrameHeader.read r.input).Agrees r.input.length ∨
    r.ioControlCode = IOCTL_RPUSB_PUSH_FRAME_CHUNK ∧
      (ChunkHeader.read r.input).Agrees r.input.length

/-! ## The tally -/

/-- What the chunks of one frame have in common. -/
structure Frame where
  frameId : UInt32
  totalChunks : UInt32
  width : UInt32
  height : UInt32
  pixelFormat : UInt32
  totalBytes : UInt32
  deriving DecidableEq

/-- The frame that a chunk is of. -/
def ChunkHeader.frame (header : ChunkHeader) : Frame :=
  ⟨header.frameId, header.totalChunks, header.width, header.height, header.pixelFormat,
    header.totalBytes⟩

/-- A chunk that has been written, with the bytes that it really carried. -/
structure WrittenChunk where
  header : ChunkHeader
  carried : Nat

/-- **All the bytes of a frame** are carried by these chunks. -/
def Frame.Complete (frame : Frame) (chunks : List WrittenChunk) : Prop :=
  ∀ b, b < 2 * frame.width.toNat * frame.height.toNat →
    ∃ c ∈ chunks, c.header.frame = frame ∧ c.header.offset ≤ b ∧ b < c.header.offset + c.carried

instance (frame : Frame) (chunks : List WrittenChunk) : Decidable (frame.Complete chunks) :=
  inferInstanceAs (Decidable (∀ b, b < _ → _))

/-- What has been written to the pipe: how many frames in full, how many bytes of
payload, and the chunks of the frames that are not complete. -/
structure Tally where
  frames : Nat
  payload : Nat
  pending : List WrittenChunk

/-- A frame is written at once. -/
def Tally.frame (t : Tally) (bytes : List UInt8) : Tally :=
  let header := FrameHeader.read bytes
  let carried := bytes.length - sizeofFrameHeader
  { t with
    frames := if 2 * header.width.toNat * header.height.toNat ≤ carried then t.frames + 1 else t.frames
    payload := t.payload + carried }

/-- A chunk is written, and may complete its frame. -/
def Tally.chunk (t : Tally) (bytes : List UInt8) : Tally :=
  let c : WrittenChunk := ⟨ChunkHeader.read bytes, bytes.length - sizeofChunkHeader⟩
  let pending := c :: t.pending
  if c.header.frame.Complete pending then
    { frames := t.frames + 1
      payload := t.payload + c.carried
      pending := pending.filter fun d => d.header.frame ≠ c.header.frame }
  else { t with payload := t.payload + c.carried, pending := pending }

/-- The driver, and what it has really written. -/
structure PushWorld where
  context : DeviceContext
  tally : Tally

/-- A new device. -/
def PushWorld.start : PushWorld := ⟨.created, ⟨0, 0, []⟩⟩

/-- A completed request, as the pipe has seen it. -/
def Tally.after (t : Tally) (r : Request) (done : Completion) : Tally :=
  match done.transfer with
  | some (.bulkOut bytes) =>
      if ¬ NT_SUCCESS done.status then t
      else if r.ioControlCode = IOCTL_RPUSB_PUSH_FRAME then t.frame bytes
      else t.chunk bytes
  | _ => t

def PushWorld.next (w : PushWorld) : TransportEvent → PushWorld
  | .request r a =>
      let done := usbDeviceIoDeviceControl w.context r a
      ⟨done.context, w.tally.after r done⟩
  | event => { w with context := Windows.step w.context event }

/-- Every event can happen at any time. -/
def PushWorld.step (w : PushWorld) (event : TransportEvent) : Option PushWorld := some (w.next event)

/-! ## What is asked of a request -/

/-- **Only consistent buffers are forwarded**, and any other request to push one is
refused and changes nothing. -/
structure Forwards (context : DeviceContext) (r : Request) (done : Completion) : Prop where
  agrees : ∀ bytes, done.transfer = some (.bulkOut bytes) → bytes = r.input ∧ r.Agrees
  refused : r.IsPush → ¬ r.Agrees → NT_SUCCESS done.status = false ∧ done.transfer = none ∧
    done.context.statistics = context.statistics

/-- **The statistics** claim no more than has been written. -/
structure PushWorld.Counts (w : PushWorld) : Prop where
  frames : w.context.statistics.framesSubmitted.toNat ≤ w.tally.frames
  bytes : w.context.statistics.bytesTransferred.toNat ≤ w.tally.payload

def ForwardsConsistent (w : PushWorld) : TransportEvent → Prop
  | .request r a => Forwards w.context r (usbDeviceIoDeviceControl w.context r a)
  | _ => True

def CountsWritten (w : PushWorld) (event : TransportEvent) : Prop := (w.next event).Counts

/-- Every request that passes the checks is consistent. -/
def PushesConsistent (_ : PushWorld) : TransportEvent → Prop
  | .request r a => r.Pushes a → r.Agrees
  | _ => True

/-- Every last chunk that is written completes its frame: the chunks before it have
been written since the frame was last complete. -/
def LastCompletes (w : PushWorld) : TransportEvent → Prop
  | .request r a =>
      let header := ChunkHeader.read r.input
      r.Pushes a → r.ioControlCode = IOCTL_RPUSB_PUSH_FRAME_CHUNK → NT_SUCCESS a.transfer = true →
        header.chunkIndex = header.totalChunks - 1 →
        header.frame.Complete (⟨header, r.input.length - sizeofChunkHeader⟩ :: w.tally.pending)
  | _ => True

section Requests

/-! ## One request -/

variable {r : Request} {a : IoctlAnswers}

/-- A vendor control transfer is no bulk write. -/
theorem sendVendorControl_transfer (context : DeviceContext) (request : UInt8) (value : UInt16)
    (length : Nat) (answer : NTSTATUS) (bytes : List UInt8) :
    (sendVendorControl context request value length answer).2 ≠ some (.bulkOut bytes) := by
  unfold sendVendorControl
  grind

/-- **A request that does not pass the checks** writes nothing; if it was to push a
buffer, it is refused. -/
theorem ioctl_unpushed (context : DeviceContext) (h : ¬ r.Pushes a) :
    (∀ bytes, (usbDeviceIoDeviceControl context r a).transfer ≠ some (.bulkOut bytes)) ∧
      (r.IsPush → NT_SUCCESS (usbDeviceIoDeviceControl context r a).status = false ∧
        (usbDeviceIoDeviceControl context r a).transfer = none) := by
  have hframe : r.ioControlCode = IOCTL_RPUSB_PUSH_FRAME →
      NT_SUCCESS (ioctlPushFrame context r a).status = false ∧
        (ioctlPushFrame context r a).transfer = none := by
    intro hcode
    unfold ioctlPushFrame
    split
    · exact ⟨rfl, rfl⟩
    split
    · rename_i hretrieve
      exact ⟨Bool.eq_false_iff.mpr hretrieve, rfl⟩
    dsimp only
    split
    · exact ⟨rfl, rfl⟩
    · rename_i hsize hretrieve hvalid
      exact absurd ⟨not_not.mp hretrieve, .inl ⟨hcode, Nat.not_lt.mp hsize, hvalid⟩⟩ h
  have hchunk : r.ioControlCode = IOCTL_RPUSB_PUSH_FRAME_CHUNK →
      NT_SUCCESS (ioctlPushFrameChunk context r a).status = false ∧
        (ioctlPushFrameChunk context r a).transfer = none := by
    intro hcode
    unfold ioctlPushFrameChunk
    split
    · exact ⟨rfl, rfl⟩
    split
    · rename_i hretrieve
      exact ⟨Bool.eq_false_iff.mpr hretrieve, rfl⟩
    dsimp only
    split
    · exact ⟨rfl, rfl⟩
    · rename_i hsize hretrieve hvalid
      exact absurd ⟨not_not.mp hretrieve, .inr ⟨hcode, Nat.not_lt.mp hsize, not_not.mp hvalid⟩⟩ h
  constructor
  · intro bytes
    have hvendor := fun request value length =>
      sendVendorControl_transfer context request value length a.transfer bytes
    unfold usbDeviceIoDeviceControl
    split
    · exact hvendor _ _ _
    split
    · unfold ioctlGetVersion Completion.refuse Completion.hand
      grind
    split
    · rename_i hcode
      rw [(hframe hcode).2]
      nofun
    split
    · unfold ioctlSetMode Completion.refuse
      grind
    split
    · unfold ioctlGet Completion.refuse Completion.hand
      grind
    split
    · unfold ioctlGet Completion.refuse Completion.hand
      grind
    split
    · rename_i hcode
      rw [(hchunk hcode).2]
      nofun
    · nofun
  · intro hpush
    rcases hpush with hcode | hcode
    · have hhandler : usbDeviceIoDeviceControl context r a = ioctlPushFrame context r a := by
        unfold usbDeviceIoDeviceControl
        rw [hcode]
        rfl
      rw [hhandler]
      exact hframe hcode
    · have hhandler : usbDeviceIoDeviceControl context r a = ioctlPushFrameChunk context r a := by
        unfold usbDeviceIoDeviceControl
        rw [hcode]
        rfl
      rw [hhandler]
      exact hchunk hcode

/-- **When a request is forwarded as it should be.** -/
theorem forwards_iff (context : DeviceContext) (r : Request) (a : IoctlAnswers) :
    Forwards context r (usbDeviceIoDeviceControl context r a) ↔ (r.Pushes a → r.Agrees) := by
  by_cases hpushes : r.Pushes a
  · rw [ioctl_pushes_eq context hpushes]
    constructor
    · intro h _
      exact (h.agrees r.input rfl).2
    · intro h
      have hagrees := h hpushes
      constructor
      · intro bytes hbytes
        cases hbytes
        exact ⟨rfl, hagrees⟩
      · intro _ hnot
        exact absurd hagrees hnot
  · obtain ⟨hnothing, hrefused⟩ := ioctl_unpushed context hpushes
    refine iff_of_true ?_ fun h => absurd h hpushes
    constructor
    · intro bytes hbytes
      exact absurd hbytes (hnothing bytes)
    · intro hpush _
      obtain ⟨hstatus, htransfer⟩ := hrefused hpush
      refine ⟨hstatus, htransfer, ?_⟩
      rw [(ioctl_harmless context hpushes).context_eq]

/-- The statistics count one more frame at most. -/
theorem count_toNat_le (s : Statistics) (bytes : UInt32) :
    (s.count bytes).framesSubmitted.toNat ≤ s.framesSubmitted.toNat + 1 ∧
      (s.count bytes).bytesTransferred.toNat ≤ s.bytesTransferred.toNat + bytes.toNat := by
  have hone : (1 : UInt64).toNat = 1 := rfl
  have hframes : (s.count bytes).framesSubmitted.toNat = (s.framesSubmitted.toNat + 1) % 2 ^ 64 := by
    rw [Statistics.count, UInt64.toNat_add, hone]
  have hbytes : (s.count bytes).bytesTransferred.toNat =
      (s.bytesTransferred.toNat + bytes.toNat) % 2 ^ 64 := by
    rw [Statistics.count, UInt64.toNat_add, UInt32.toNat_toUInt64]
  rw [hframes, hbytes]
  exact ⟨Nat.mod_le _ _, Nat.mod_le _ _⟩

end Requests

section Counting

/-! ## What is counted -/

/-- The bytes that these chunks carried. -/
def carriedBytes (chunks : List WrittenChunk) : Nat := (chunks.map WrittenChunk.carried).sum

/-- **Between two events** the frames that are counted have been written, and their bytes
are others than those of the frames that are not complete. -/
structure PushWorld.Sound (w : PushWorld) : Prop where
  frames : w.context.statistics.framesSubmitted.toNat ≤ w.tally.frames
  bytes : w.context.statistics.bytesTransferred.toNat + carriedBytes w.tally.pending ≤
    w.tally.payload

theorem PushWorld.Sound.counts {w : PushWorld} (h : w.Sound) : w.Counts := by
  have hbytes := h.bytes
  exact ⟨h.frames, by omega⟩

/-- The chunks of a frame and the others. -/
theorem carriedBytes_split (chunks : List WrittenChunk) (frame : Frame) :
    carriedBytes (chunks.filter fun c => c.header.frame = frame) +
      carriedBytes (chunks.filter fun c => c.header.frame ≠ frame) = carriedBytes chunks := by
  induction chunks with
  | nil => rfl
  | cons c chunks ih =>
      unfold carriedBytes at ih ⊢
      by_cases hframe : c.header.frame = frame
      · simp [hframe] at ih ⊢
        omega
      · simp [hframe] at ih ⊢
        omega

/-- **A complete frame** has been carried in full by its own chunks. -/
theorem Frame.Complete.le_carried {frame : Frame} {chunks : List WrittenChunk}
    (h : frame.Complete chunks) : 2 * frame.width.toNat * frame.height.toNat ≤
      carriedBytes (chunks.filter fun c => c.header.frame = frame) := by
  refine le_sum_of_covers (fun c : WrittenChunk => c.header.offset) WrittenChunk.carried _ ?_
  intro b hb
  obtain ⟨c, hc, hframe, hlow, hhigh⟩ := h b hb
  exact ⟨c, List.mem_filter.mpr ⟨hc, decide_eq_true hframe⟩, hlow, hhigh⟩

/-- What a chunk adds to the tally. -/
theorem Tally.chunk_spec (t : Tally) (bytes : List UInt8) :
    (t.chunk bytes).payload = t.payload + (bytes.length - sizeofChunkHeader) ∧
      t.frames ≤ (t.chunk bytes).frames ∧
      carriedBytes (t.chunk bytes).pending ≤
        carriedBytes t.pending + (bytes.length - sizeofChunkHeader) := by
  have hcons : carriedBytes (⟨ChunkHeader.read bytes, bytes.length - sizeofChunkHeader⟩ :: t.pending) =
      bytes.length - sizeofChunkHeader + carriedBytes t.pending := by
    rw [carriedBytes, List.map_cons, List.sum_cons]
    rfl
  unfold Tally.chunk
  dsimp only
  split
  · have hsplit := carriedBytes_split
      (⟨ChunkHeader.read bytes, bytes.length - sizeofChunkHeader⟩ :: t.pending)
      (ChunkHeader.read bytes).frame
    rw [hcons] at hsplit
    refine ⟨rfl, Nat.le_succ _, ?_⟩
    dsimp only
    omega
  · exact ⟨rfl, Nat.le_refl _, by rw [hcons]; omega⟩

/-- What the chunk adds that completes its frame. -/
theorem Tally.chunk_complete (t : Tally) (bytes : List UInt8)
    (h : (ChunkHeader.read bytes).frame.Complete
      (⟨ChunkHeader.read bytes, bytes.length - sizeofChunkHeader⟩ :: t.pending)) :
    (t.chunk bytes).frames = t.frames + 1 ∧
      carriedBytes (t.chunk bytes).pending +
          2 * (ChunkHeader.read bytes).width.toNat * (ChunkHeader.read bytes).height.toNat ≤
        carriedBytes t.pending + (bytes.length - sizeofChunkHeader) := by
  have hcons : carriedBytes (⟨ChunkHeader.read bytes, bytes.length - sizeofChunkHeader⟩ :: t.pending) =
      bytes.length - sizeofChunkHeader + carriedBytes t.pending := by
    rw [carriedBytes, List.map_cons, List.sum_cons]
    rfl
  have hsplit := carriedBytes_split
    (⟨ChunkHeader.read bytes, bytes.length - sizeofChunkHeader⟩ :: t.pending)
    (ChunkHeader.read bytes).frame
  have hcarried := h.le_carried
  have hwidth : (ChunkHeader.read bytes).frame.width = (ChunkHeader.read bytes).width := rfl
  have hheight : (ChunkHeader.read bytes).frame.height = (ChunkHeader.read bytes).height := rfl
  rw [hwidth, hheight] at hcarried
  rw [hcons] at hsplit
  unfold Tally.chunk
  rw [if_pos h]
  refine ⟨rfl, ?_⟩
  dsimp only
  omega

/-- **A frame is pushed** at once, and counted. -/
theorem PushWorld.Sound.frame {w : PushWorld} (h : w.Sound) {bytes : List UInt8}
    (hagrees : (FrameHeader.read bytes).Agrees bytes.length) :
    (⟨{ w.context with statistics := w.context.statistics.count (FrameHeader.read bytes).payloadBytes },
      w.tally.frame bytes⟩ : PushWorld).Sound := by
  obtain ⟨hframes, hbytes⟩ := count_toNat_le w.context.statistics (FrameHeader.read bytes).payloadBytes
  have hpayload := hagrees.payload
  have hpixels := hagrees.pixels
  have hbefore := h.frames
  have hroom := h.bytes
  constructor
  · have htally : (w.tally.frame bytes).frames = w.tally.frames + 1 := by
      rw [Tally.frame]
      exact if_pos (by omega)
    dsimp only
    omega
  · have htally : (w.tally.frame bytes).payload =
        w.tally.payload + (bytes.length - sizeofFrameHeader) := rfl
    have hpending : (w.tally.frame bytes).pending = w.tally.pending := rfl
    dsimp only
    rw [htally, hpending]
    omega

/-- **A chunk is pushed**, and counted where it is the last one of a complete frame. -/
theorem PushWorld.Sound.chunk {w : PushWorld} (h : w.Sound) {bytes : List UInt8}
    (hagrees : (ChunkHeader.read bytes).Agrees bytes.length)
    (hlast : (ChunkHeader.read bytes).chunkIndex = (ChunkHeader.read bytes).totalChunks - 1 →
      (ChunkHeader.read bytes).frame.Complete
        (⟨ChunkHeader.read bytes, bytes.length - sizeofChunkHeader⟩ :: w.tally.pending)) :
    (⟨{ w.context with
        statistics :=
          if (ChunkHeader.read bytes).chunkIndex = (ChunkHeader.read bytes).totalChunks - 1 then
            w.context.statistics.count (ChunkHeader.read bytes).totalBytes
          else w.context.statistics },
      w.tally.chunk bytes⟩ : PushWorld).Sound := by
  have hbefore := h.frames
  have hroom := h.bytes
  obtain ⟨hpayload, hmore, hpending⟩ := w.tally.chunk_spec bytes
  by_cases hindex : (ChunkHeader.read bytes).chunkIndex = (ChunkHeader.read bytes).totalChunks - 1
  · obtain ⟨hframes, hbytes⟩ := count_toNat_le w.context.statistics (ChunkHeader.read bytes).totalBytes
    obtain ⟨hcomplete, hcarried⟩ := w.tally.chunk_complete bytes (hlast hindex)
    have hpixels := hagrees.pixels
    rw [if_pos hindex]
    constructor <;> dsimp only <;> omega
  · rw [if_neg hindex]
    constructor <;> dsimp only <;> omega

/-- Nothing but a request changes the statistics. -/
theorem step_statistics (context : DeviceContext) {event : TransportEvent}
    (hevent : ∀ r a, event ≠ .request r a) : (step context event).statistics = context.statistics := by
  cases event with
  | prepareHardware a => exact (prepareHardware_keeps context a).1
  | releaseHardware => rfl
  | d0Entry previousState => exact d0Entry_statistics context previousState
  | d0Exit targetState => exact d0Exit_statistics context targetState
  | interrupt packet => exact interruptCompletion_statistics context packet
  | request r a => exact absurd rfl (hevent r a)

/-- **The step.** -/
theorem PushWorld.Sound.next {w : PushWorld} (h : w.Sound) {event : TransportEvent}
    (hconsistent : PushesConsistent w event) (hlast : LastCompletes w event) :
    (w.next event).Sound := by
  have hquiet : (∀ r a, event ≠ .request r a) → (w.next event).Sound := by
    intro hevent
    have hnext : w.next event = { w with context := Windows.step w.context event } := by
      cases event with
      | request r a => exact absurd rfl (hevent r a)
      | _ => rfl
    have hstatistics := step_statistics w.context hevent
    rw [hnext]
    refine ⟨?_, ?_⟩
    · rw [hstatistics]
      exact h.frames
    · rw [hstatistics]
      exact h.bytes
  cases event with
  | request r a =>
      rw [PushWorld.next]
      by_cases hpushes : r.Pushes a
      · rw [ioctl_pushes_eq w.context hpushes, Tally.after]
        dsimp only
        have hagrees := hconsistent hpushes
        unfold Request.statisticsAfter
        dsimp only
        by_cases hwritten : NT_SUCCESS a.transfer = true
        · rw [if_neg (not_not_intro hwritten), if_neg (not_not_intro hwritten)]
          by_cases hcode : r.ioControlCode = IOCTL_RPUSB_PUSH_FRAME
          · rw [if_pos hcode, if_pos hcode]
            rcases hagrees with ⟨_, hagrees⟩ | ⟨hother, _⟩
            · exact h.frame hagrees
            · rw [hother] at hcode
              exact absurd hcode (by decide)
          · rw [if_neg hcode, if_neg hcode]
            rcases hagrees with ⟨hother, _⟩ | ⟨hchunk, hagrees⟩
            · exact absurd hother hcode
            · exact h.chunk hagrees (hlast hpushes hchunk hwritten)
        · rw [if_pos hwritten, if_pos hwritten]
          exact ⟨h.frames, h.bytes⟩
      · have hnothing := (ioctl_unpushed w.context hpushes).1
        have htally : w.tally.after r (usbDeviceIoDeviceControl w.context r a) = w.tally := by
          unfold Tally.after
          split
          · rename_i bytes hbytes
            exact absurd hbytes (hnothing bytes)
          · rfl
        rw [htally, (ioctl_harmless w.context hpushes).context_eq]
        exact h
  | _ => exact hquiet nofun

/-- **What the transport forwards and counts.**  In every run of requests and of
everything else that happens to the driver, only consistent buffers are forwarded
exactly if every buffer that passes the checks is consistent; and if in addition every
last chunk that is written completes its frame, the statistics never claim more than has
been written. -/
theorem frames_forwarded (events : List TransportEvent) :
    (Runs.AllowedThrough PushWorld.step ForwardsConsistent .start events ↔
        Runs.AllowedThrough PushWorld.step PushesConsistent .start events) ∧
      (Runs.AllowedThrough PushWorld.step
          (fun w event => PushesConsistent w event ∧ LastCompletes w event) .start events →
        Runs.AllowedThrough PushWorld.step CountsWritten .start events) := by
  constructor
  · have hiff : ∀ w event, True → True → (ForwardsConsistent w event ↔ PushesConsistent w event) := by
      intro w event _ _
      cases event with
      | request r a => exact forwards_iff w.context r a
      | _ => exact Iff.rfl
    have hkeep : ∀ (w w' : PushWorld) (event : TransportEvent), True → True →
        PushesConsistent w event → w.step event = some w' → True := fun _ _ _ _ _ _ _ => trivial
    exact Runs.allowedThrough_iff hiff hkeep trivial (Runs.allowedThrough_true events PushWorld.start)
  · intro hmeets
    have hcounts : ∀ w event, w.Sound → PushesConsistent w event ∧ LastCompletes w event →
        (CountsWritten w event ↔ True) :=
      fun w event h hnow => iff_true_intro (h.next hnow.1 hnow.2).counts
    have hkeep : ∀ w w' event, w.Sound → PushesConsistent w event ∧ LastCompletes w event → True →
        w.step event = some w' → w'.Sound := by
      intro w w' event h hnow _ hstep
      rw [← Option.some.inj hstep]
      exact h.next hnow.1 hnow.2
    have hstart : PushWorld.start.Sound := ⟨Nat.le_refl 0, Nat.le_refl 0⟩
    exact (Runs.allowedThrough_iff hcounts hkeep hstart hmeets).mpr
      (Runs.allowedThrough_true events PushWorld.start)

/-- A frame of one pixel whose header claims a thousand bytes. -/
def boastfulFrame : Request :=
  { ioControlCode := IOCTL_RPUSB_PUSH_FRAME
    input := store32 1 ++ store32 1 ++ store32 0 ++ store32 1000 ++ [0, 0]
    outputBufferLength := 0 }

/-- The buffer is forwarded, and its claim is counted. -/
theorem boast_counted :
    ¬ Runs.AllowedThrough PushWorld.step ForwardsConsistent .start [.request boastfulFrame allGood] ∧
      ¬ Runs.AllowedThrough PushWorld.step CountsWritten .start [.request boastfulFrame allGood] := by
  constructor
  · intro h
    obtain ⟨_, hagrees⟩ := h.1.agrees boastfulFrame.input rfl
    rcases hagrees with ⟨_, hframe⟩ | ⟨hcode, _⟩
    · exact absurd hframe.payload (by decide)
    · exact absurd hcode (by decide)
  · intro h
    exact absurd h.1.bytes (by decide)

end Counting

section Pipeline

/-! ## What the pipeline sends -/

variable {surface : Surface}

/-- The bytes of a surface that fits, and where its chunks lie in them. -/
theorem chunk_before_end (h : surface.Fits) {i : Nat}
    (hi : i < (totalChunks surface.payloadBytes).toNat) : i * 16352 < surface.payload.length := by
  rw [h.sized.totalChunks_eq] at hi
  have hle : (i + 1) * 16352 ≤ surface.payload.length + 16352 - 1 :=
    (Nat.le_div_iff_mul_le (by decide)).mp hi
  omega

/-- **The chunks of the pipeline** are consistent. -/
theorem chunk_agrees (h : surface.Fits) (frameId : UInt32) {i : Nat}
    (hi : i < (totalChunks surface.payloadBytes).toNat) :
    (⟨IOCTL_RPUSB_PUSH_FRAME_CHUNK, surface.chunk frameId i, 0⟩ : Request).Agrees := by
  have hread : ChunkHeader.read (surface.chunk frameId i) = surface.chunkHeader frameId i :=
    ChunkHeader.read_toBytes _ _
  have hlength : (surface.chunk frameId i).length = sizeofChunkHeader + (surface.chunkData i).length := by
    rw [Surface.chunk, List.length_append, ChunkHeader.toBytes_length]
  have hcarried : (surface.chunkData i).length = min 16352 (surface.payload.length - i * 16352) := by
    rw [Surface.chunkData, List.length_take, List.length_drop]
  have hbefore := chunk_before_end h hi
  have htotal : (totalChunks surface.payloadBytes).toNat < 2 ^ 32 := UInt32.toNat_lt _
  have hoffset : (surface.chunkHeader frameId i).offset = i * 16352 := by
    rw [ChunkHeader.offset, chunkDataSize_toNat, Surface.chunkHeader, toNat_ofNat_lt (by omega)]
  have hbytes : (surface.chunkHeader frameId i).totalBytes.toNat = surface.payload.length :=
    h.sized.payload_length.symm
  refine .inr ⟨rfl, ?_⟩
  dsimp only
  rw [hread, hlength]
  constructor
  · exact Nat.le_add_right _ _
  · rw [h.chunkBytes_eq, Nat.add_sub_cancel_left]
  · rw [hbytes, h.sized.payload_length]
    exact h.sized.payloadBytes_eq
  · rw [hoffset, h.chunkBytes_eq, hbytes, hcarried]
    omega

/-- **All of them together** complete the frame. -/
theorem chunks_complete (h : surface.Fits) (frameId : UInt32) {chunks : List WrittenChunk}
    (hall : ∀ i, i < (totalChunks surface.payloadBytes).toNat →
      ⟨surface.chunkHeader frameId i, (surface.chunkData i).length⟩ ∈ chunks) (i : Nat) :
    (surface.chunkHeader frameId i).frame.Complete chunks := by
  intro b hb
  have hpayload : b < surface.payload.length := by
    rw [h.sized.payload_length, h.sized.payloadBytes_eq]
    exact hb
  have htotal : (totalChunks surface.payloadBytes).toNat < 2 ^ 32 := UInt32.toNat_lt _
  have hindex : b / 16352 < (totalChunks surface.payloadBytes).toNat := by
    rw [h.sized.totalChunks_eq]
    omega
  have hoffset : (surface.chunkHeader frameId (b / 16352)).offset = b / 16352 * 16352 := by
    rw [ChunkHeader.offset, chunkDataSize_toNat, Surface.chunkHeader, toNat_ofNat_lt (by omega)]
  have hcarried : (surface.chunkData (b / 16352)).length =
      min 16352 (surface.payload.length - b / 16352 * 16352) := by
    rw [Surface.chunkData, List.length_take, List.length_drop]
  refine ⟨_, hall (b / 16352) hindex, rfl, ?_, ?_⟩
  · rw [hoffset]
    omega
  · rw [hoffset, hcarried]
    dsimp only
    omega

end Pipeline

end Windows

end RpUsbDisp
