import RpUsbDisp.TicketPool

/-!
# Refreshing an idle display

`_bitblt_encoder_init` buys all the tickets the worst case of an image needs at once.
How many there are to be bought was decided at the probing, where
`_on_alloc_disp_tickets_pool` is content with what it gets.

No image on the screen needs more than ten tickets, or with a full pool more than there
are.  With a smaller pool the question is whether all its tickets together hold the
worst case of the whole screen; if they do not, `try next time` never comes true
(`idle_refreshable_iff`).
-/

namespace RpUsbDisp

open Programs Framing

/-! ## How many tickets there are -/

/-- What the kernel grants in one round of `_on_alloc_disp_tickets_pool`: the ticket, its
URB, and the transfer buffer with whatever it holds. -/
structure TicketAttempt where
  kzalloc : Bool
  usbAllocUrb : Bool
  usbAllocCoherent : Option (List UInt8)
  size_eq : ∀ buffer, usbAllocCoherent = some buffer → buffer.length = RPUSBDISP_MAX_TRANSFER_SIZE

/-- The buffer of a ticket that was allocated as a whole. -/
def TicketAttempt.newborn (attempt : TicketAttempt) : Option (List UInt8) :=
  if !attempt.kzalloc then none
  else if !attempt.usbAllocUrb then none
  else attempt.usbAllocCoherent

/-- The loop of `_on_alloc_disp_tickets_pool`, with `left` rounds to go: it ends with the
first attempt that fails. -/
def allocLoop (attempts : Nat → TicketAttempt) : Nat → List (List UInt8)
  | 0 => []
  | left + 1 =>
      match (attempts (RPUSBDISP_MAX_TRANSFER_TICKETS_COUNT - (left + 1))).newborn with
      | none => []
      | some buffer => buffer :: allocLoop attempts left

theorem allocLoop_length_le (attempts : Nat → TicketAttempt) (left : Nat) :
    (allocLoop attempts left).length ≤ left := by
  induction left with
  | zero => exact Nat.le_refl 0
  | succ left ih =>
      unfold allocLoop
      split
      · exact Nat.zero_le _
      · exact Nat.succ_le_succ ih

theorem allocLoop_size {attempts : Nat → TicketAttempt} {left : Nat} {buffer : List UInt8}
    (hbuffer : buffer ∈ allocLoop attempts left) : buffer.length = RPUSBDISP_MAX_TRANSFER_SIZE := by
  induction left with
  | zero => cases hbuffer
  | succ left ih =>
      unfold allocLoop at hbuffer
      split at hbuffer
      · cases hbuffer
      · rename_i newborn hnewborn
        rcases List.mem_cons.mp hbuffer with rfl | hrest
        · unfold TicketAttempt.newborn at hnewborn
          split at hnewborn
          · cases hnewborn
          · split at hnewborn
            · cases hnewborn
            · exact (attempts _).size_eq _ hnewborn
        · exact ih hrest

/-- The buffers of the tickets that were allocated. -/
def allocatedBuffers (attempts : Nat → TicketAttempt) : Buffers where
  list := allocLoop attempts RPUSBDISP_MAX_TRANSFER_TICKETS_COUNT
  size_eq _ hbuffer := allocLoop_size hbuffer
  count_le := allocLoop_length_le attempts _

/-- What `_on_alloc_disp_tickets_pool` returns, and with it `rpusbdisp_probe`. -/
def allocResult (attempts : Nat → TicketAttempt) : Int :=
  if (allocatedBuffers attempts).list.length = 0 then -12 else 0

/-! ## An idle display -/

/-- The display is attached, and all its tickets are in the pool. -/
structure UsbState.Idle (s : UsbState) : Prop where
  alive : s.isAlive = true
  back : s.pool.availiableCount = s.pool.dispUrbCount

/-- `_bitblt_encoder_init`, by itself, succeeds. -/
def Refreshes (dev : Dev) (s : UsbState) (imageSize : Nat) (rlemode : Bool) : Prop :=
  ∃ ctx s', (bitbltEncoderInit dev imageSize rlemode).run (fun s o => s.exec o .submitted) s =
    some (some ctx, s')

section Init

variable {dev : Dev} {s : UsbState} {imageSize n : Nat} {rlemode : Bool}

/-- A sale of a living display. -/
theorem sellDispTickets_run (halive : s.isAlive = true) (hpos : 0 < n) :
    (sellDispTickets n).run (fun s o => s.exec o .submitted) s =
      some ((s.pool.sell n).1, { s with pool := (s.pool.sell n).2 }) := by
  have hasked : s.exec .isAlive .submitted = some (true, s) := by rw [UsbState.exec, halive]
  unfold sellDispTickets
  rw [run_ask_bind hasked, if_pos rfl, if_neg (Nat.ne_of_gt hpos)]
  rfl

/-- **An idle pool** sells what it has, and no more. -/
theorem refreshes_iff (hrequired : requiredTicketsCount dev imageSize rlemode = some n) (hpos : 0 < n)
    (hmax : n ≤ RPUSBDISP_MAX_TRANSFER_TICKETS_COUNT) (hidle : s.Idle)
    (hcount : s.pool.availiableCount = s.pool.list.length) :
    Refreshes dev s imageSize rlemode ↔ n ≤ s.pool.dispUrbCount := by
  have hback := hidle.back
  unfold Refreshes bitbltEncoderInit
  rw [hrequired]
  simp only [if_neg (Nat.not_lt.mpr hmax)]
  rw [run_bind (sellDispTickets_run hidle.alive hpos)]
  by_cases henough : n ≤ s.pool.dispUrbCount
  · obtain ⟨ticket, later, hbundle⟩ : ∃ ticket later, s.pool.list.take n = ticket :: later := by
      apply List.exists_cons_of_ne_nil
      intro hnil
      have hlength := congrArg List.length hnil
      rw [List.length_take, List.length_nil] at hlength
      omega
    rw [TicketPool.sell_enough (by omega), hbundle]
    exact iff_of_true ⟨_, _, rfl⟩ henough
  · have hnone : (s.pool.sell n).1 = none := by
      rw [TicketPool.sell, if_pos (by omega)]
    rw [hnone]
    refine iff_of_false ?_ henough
    intro hsome
    obtain ⟨ctx, s', hret⟩ := hsome
    cases hret

end Init

section Runs

variable {dev : Dev} {w w' : UsbWorld}

/-- No operation changes how many tickets there are. -/
theorem UsbState.exec_dispUrbCount {s s' : UsbState} {o : UsbOp} {r : o.Res} {choice : SubmitResult}
    (h : s.exec o choice = some (r, s')) : s'.pool.dispUrbCount = s.pool.dispUrbCount := by
  cases o with
  | sellTickets n =>
      cases h
      unfold TicketPool.sell
      split
      · rfl
      · rfl
  | submitUrb site t =>
      cases choice with
      | submitted =>
          cases h
          rfl
      | refused status =>
          cases h
          rfl
  | _ =>
      cases h
      rfl

/-- Nor does a run. -/
theorem Run.dispUrbCount {allowed : UsbWorld → UsbEvent → Prop} {start : UsbWorld}
    (run : Run dev allowed start w) :
    w.shared.pool.dispUrbCount = start.shared.pool.dispUrbCount := by
  induction run with
  | start => rfl
  | @step w w' e _ _ hnext ih =>
      rw [← ih]
      cases e with
      | run i choice =>
          obtain ⟨o, k, g, r, s, _, hexec, rfl⟩ := World.step_some hnext
          exact UsbState.exec_dispUrbCount hexec
      | complete k status =>
          simp only [nextWorld] at hnext
          split at hnext
          · cases hnext
            rfl
          · cases hnext
      | finish i =>
          obtain ⟨_, _, _, rfl⟩ := World.finish_some hnext
          rfl
      | _ =>
          cases hnext
          rfl

end Runs

/-! ## Which displays can be refreshed -/

/-- The whole screen, in RLE mode. -/
def fullScreenWorst : Nat := worstCase true (RP_DISP_DEFAULT_WIDTH * RP_DISP_DEFAULT_HEIGHT)

/-- No image on the screen is worse. -/
theorem worstCase_le {rlemode : Bool} {pixelCount : Nat}
    (hmax : pixelCount ≤ RP_DISP_DEFAULT_WIDTH * RP_DISP_DEFAULT_HEIGHT) :
    worstCase rlemode pixelCount ≤ fullScreenWorst := by
  have hround : (pixelCount + 127) / 128 ≤ (RP_DISP_DEFAULT_WIDTH * RP_DISP_DEFAULT_HEIGHT + 127) / 128 :=
    Nat.div_le_div_right (Nat.add_le_add_right hmax 127)
  unfold fullScreenWorst worstCase
  cases rlemode with
  | false =>
      rw [if_neg Bool.false_ne_true, if_pos rfl]
      omega
  | true =>
      rw [if_pos rfl, if_pos rfl]
      omega

/-- **Five tickets** hold it, whatever the packet size. -/
theorem fullScreenWorst_le_five {mps : Nat} (fwver : UInt16) (host : HostOrder)
    (hlo : sizeofBitbltPacket ≤ mps) (hhi : mps ≤ RPUSBDISP_MAX_TRANSFER_SIZE) :
    fullScreenWorst ≤ 5 * (Dev.attached mps fwver host).urbPayload := by
  have hworst : fullScreenWorst = 154209 := by decide
  have hurb : (Dev.attached mps fwver host).urbPayload =
      RPUSBDISP_MAX_TRANSFER_SIZE / mps * (mps - 1) := rfl
  have hmax : RPUSBDISP_MAX_TRANSFER_SIZE = 65024 := rfl
  rw [hmax] at hhi hurb
  unfold sizeofBitbltPacket at hlo
  have hfactor : 1 ≤ 65024 / mps := Nat.div_pos hhi (by omega)
  have hbuffer := Nat.lt_mul_div_succ 65024 (show 0 < mps by omega)
  have hfits := Nat.div_mul_le_self 65024 mps
  rw [hworst, hurb]
  generalize 65024 / mps = factor at hfactor hbuffer hfits
  obtain ⟨payload, rfl⟩ : ∃ payload, mps = payload + 1 := ⟨mps - 1, by omega⟩
  rw [Nat.add_sub_cancel]
  by_cases hone : factor = 1
  · subst hone
    omega
  · -- the packet size and the number of packets are not both large
    obtain ⟨a, rfl⟩ : ∃ a, payload = a + 1 := ⟨payload - 1, by omega⟩
    obtain ⟨b, rfl⟩ : ∃ b, factor = b + 2 := ⟨factor - 2, by omega⟩
    have hfits' : (b + 2) * (a + 1 + 1) = b * a + 2 * b + 2 * a + 4 := by
      rw [Nat.add_mul, Nat.mul_add, Nat.mul_add]
      omega
    have hbuffer' : (a + 1 + 1) * (b + 2 + 1) = b * a + 3 * a + 2 * b + 6 := by
      rw [Nat.mul_add, Nat.mul_add, Nat.add_mul, Nat.add_mul, Nat.mul_comm b]
      omega
    have hgoal : (b + 2) * (a + 1) = b * a + b + 2 * a + 2 := by
      rw [Nat.add_mul, Nat.mul_add, Nat.mul_add]
      omega
    rw [hfits'] at hfits
    rw [hbuffer'] at hbuffer
    rw [hgoal]
    generalize b * a = product at hfits hbuffer ⊢
    omega

/-- **One rectangle** of an idle display: the tickets together must hold its worst case. -/
theorem refreshes_iff_holds {mps : Nat} (hlo : sizeofBitbltPacket ≤ mps)
    (hhi : mps ≤ RPUSBDISP_MAX_TRANSFER_SIZE) {fwver : UInt16} {host : HostOrder} {buffers : Buffers}
    {w : UsbWorld} (run : Run (.attached mps fwver host) (fun _ _ => True)
      (freshWorld (.attached mps fwver host) buffers.list) w) (hidle : w.shared.Idle)
    {x y right bottom : Int} (hin : InScreen x y right bottom) (rlemode : Bool) :
    Refreshes (.attached mps fwver host) w.shared (imageSize x y right bottom) rlemode ↔
      worstCase rlemode ((bottom + 1 - y).toNat * (right + 1 - x).toNat) ≤
        buffers.list.length * (Dev.attached mps fwver host).urbPayload := by
  have hmax : RPUSBDISP_MAX_TRANSFER_SIZE = 65024 := rfl
  have hreg := Dev.attached_regular fwver host hlo hhi
  have hcount := (run.sound (freshWorld_sound _ buffers)).shared.count
  have htickets : w.shared.pool.dispUrbCount = buffers.list.length := run.dispUrbCount
  obtain ⟨hsize, _, hscreen⟩ := imageSize_eq hin (fun _ => 0) 320
  rw [rectPixels_length] at hsize hscreen
  simp only [RP_DISP_DEFAULT_WIDTH, RP_DISP_DEFAULT_HEIGHT] at hscreen
  obtain ⟨n, hrequired, hleast⟩ := requiredTicketsCount_spec rlemode
    (Nat.lt_of_lt_of_le (by decide) hreg.header_le) hreg.factor_pos
    (show (bottom + 1 - y).toNat * (right + 1 - x).toNat < 2 ^ 32 by omega)
    (show mps < 2 ^ 32 by omega) (Nat.lt_of_le_of_lt (Nat.div_le_self _ _) (by decide))
  rw [← hsize] at hrequired
  obtain ⟨hpos, hten⟩ : 0 < n ∧ n ≤ RPUSBDISP_MAX_TRANSFER_TICKETS_COUNT := by
    rcases Dev.attached_required fwver host rlemode hin with hnone | ⟨m, hm, hpos, hten⟩
    · cases hrequired.symm.trans hnone
    · obtain rfl : n = m := Option.some.inj (hrequired.symm.trans hm)
      exact ⟨hpos, hten⟩
  rw [refreshes_iff hrequired hpos hten hidle hcount, htickets, hleast]

/-- **When an idle display can always be refreshed.**  For every packet size between a
bitblt header and the whole buffer, and whatever was granted at the probing: in every
run, whenever all tickets are in the pool, the encoder can be initialised for every
rectangle of the screen in both modes, if and only if all tickets together hold the
worst case of the whole screen. -/
theorem idle_refreshable_iff {mps : Nat} (hlo : sizeofBitbltPacket ≤ mps)
    (hhi : mps ≤ RPUSBDISP_MAX_TRANSFER_SIZE) (fwver : UInt16) (host : HostOrder)
    (attempts : Nat → TicketAttempt) :
    (∀ w, Run (.attached mps fwver host) (fun _ _ => True)
        (freshWorld (.attached mps fwver host) (allocatedBuffers attempts).list) w → w.shared.Idle →
      ∀ x y right bottom, InScreen x y right bottom → ∀ rlemode,
        Refreshes (.attached mps fwver host) w.shared (imageSize x y right bottom) rlemode) ↔
      fullScreenWorst ≤ (allocatedBuffers attempts).list.length *
        (RPUSBDISP_MAX_TRANSFER_SIZE / mps * (mps - 1)) := by
  constructor
  · intro h
    have hidle : (freshWorld (.attached mps fwver host) (allocatedBuffers attempts).list).shared.Idle :=
      ⟨rfl, rfl⟩
    have hscreen : InScreen 0 0 319 239 :=
      ⟨by decide, by decide, by decide, by decide, by decide, by decide⟩
    exact (refreshes_iff_holds hlo hhi .start hidle hscreen true).mp (h _ .start hidle _ _ _ _ hscreen true)
  · intro h w run hidle x y right bottom hin rlemode
    have hscreen := (imageSize_eq hin (fun _ => 0) 320).2.2
    rw [rectPixels_length] at hscreen
    exact (refreshes_iff_holds hlo hhi run hidle hin rlemode).mpr
      (Nat.le_trans (worstCase_le hscreen) h)

/-- A kernel that grants `count` tickets. -/
def grants (count : Nat) (i : Nat) : TicketAttempt where
  kzalloc := i < count
  usbAllocUrb := true
  usbAllocCoherent := some (List.replicate RPUSBDISP_MAX_TRANSFER_SIZE 0)
  size_eq := by
    intro buffer hbuffer
    cases hbuffer
    exact List.length_replicate

/-- With all ten tickets and packets of 64 bytes the whole screen can be sent at once. -/
theorem idle_refreshable_ten :
    (freshWorld (.attached 64 0x0104 .little) (allocatedBuffers (grants 10)).list).shared.Idle ∧
      Refreshes (.attached 64 0x0104 .little)
        (freshWorld (.attached 64 0x0104 .little) (allocatedBuffers (grants 10)).list).shared
        (imageSize 0 0 319 239) true := by
  have hcount : (allocatedBuffers (grants 10)).list.length = 10 := rfl
  have hlo : sizeofBitbltPacket ≤ 64 := by decide
  have hhi : 64 ≤ RPUSBDISP_MAX_TRANSFER_SIZE := by decide
  have henough := fullScreenWorst_le_five 0x0104 .little hlo hhi
  have hscreen : InScreen 0 0 319 239 :=
    ⟨by decide, by decide, by decide, by decide, by decide, by decide⟩
  have hidle :
      (freshWorld (.attached 64 0x0104 .little) (allocatedBuffers (grants 10)).list).shared.Idle :=
    ⟨rfl, rfl⟩
  have hall := (idle_refreshable_iff hlo hhi 0x0104 .little (grants 10)).mpr (by
    rw [hcount]
    exact Nat.le_trans henough (Nat.mul_le_mul_right _ (by decide)))
  exact ⟨hidle, hall _ .start hidle 0 0 319 239 hscreen true⟩

/-- **Two tickets are too few** for the whole screen in packets of 64 bytes, however often
the pool is full again; the probing is content with them. -/
theorem two_tickets_too_few :
    allocResult (grants 2) = 0 ∧ InScreen 0 0 319 239 ∧
      (freshWorld (.attached 64 0x0104 .little) (allocatedBuffers (grants 2)).list).shared.Idle ∧
      ∀ w, Run (.attached 64 0x0104 .little) (fun _ _ => True)
        (freshWorld (.attached 64 0x0104 .little) (allocatedBuffers (grants 2)).list) w → w.shared.Idle →
        ¬ Refreshes (.attached 64 0x0104 .little) w.shared (imageSize 0 0 319 239) true := by
  have hcount : (allocatedBuffers (grants 2)).list.length = 2 := rfl
  have hscreen : InScreen 0 0 319 239 :=
    ⟨by decide, by decide, by decide, by decide, by decide, by decide⟩
  have hprobed : allocResult (grants 2) = 0 := by
    rw [allocResult, hcount]
    rfl
  refine ⟨hprobed, hscreen, ⟨rfl, rfl⟩, fun w run hidle hrefreshes => ?_⟩
  have hholds := (refreshes_iff_holds (by decide) (by decide) run hidle hscreen true).mp hrefreshes
  rw [hcount] at hholds
  exact absurd hholds (by decide)

end RpUsbDisp
