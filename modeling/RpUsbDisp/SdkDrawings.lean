import RpUsbDisp.Receiver
import RpUsbDisp.SdkSafety

/-!
# What a display of the SDK draws

From the calls of many threads to the display: whatever is submitted to the display endpoint
belongs to one call, and every call that returns has had its command submitted, once
(`calls_drawn`).  The display carries the commands out in the order in which they were submitted,
which is the order of the calls where one had ended before the other began (`calls_in_order`).

Of every submission some packets arrive, from the first one on.  The buffers that are submitted
are filled to the last byte when `maxPacketSize_` is 2 or more (`run_filled`).
-/

namespace RpUsbDisp.SdkDevice

open Programs Sdk StatusPackets Hotplug Framing Display

variable {cfg : Config} {w w' : SdkWorld cfg} {e : Event}

section Filled

/-! ## What is submitted -/

/-- **Every byte is written** where packets have a size. -/
theorem run_filled {call : DisplayCall} {env : Environment} {host : HostOrder} {maxPacketSize : CInt}
    {firmwareVersion : UInt16} {submission : Submission} (htwo : 2 ≤ maxPacketSize.val)
    (hrun : call.run env host maxPacketSize firmwareVersion = .ok submission) :
    ∃ stream : List UInt8, submission.buffer = stream.map some := by
  rw [DisplayCall.run_eq] at hrun
  obtain ⟨payload, hprepare, hsent⟩ := bind_eq_ok.mp hrun
  have hlt := (DisplayCall.commandBody_eq hprepare).2
  obtain ⟨sent, hcommand, heq⟩ := exists_payload env maxPacketSize
    (call.struct host firmwareVersion) payload
  have hmin : INT_MIN < maxPacketSize.val := by
    unfold INT_MIN
    omega
  rw [heq, sendCommandWithInt_eq env hmin (by omega) (hcommand ▸ hlt)] at hsent
  split at hsent
  · obtain rfl := Except.ok.inj hsent
    exact ⟨_, if_pos (Or.inl htwo)⟩
  · cases hsent

/-- A submission as a transfer to the display. -/
def Sent.transfer (htwo : 2 ≤ cfg.maxPacketSize.val) (sent : Sent cfg) :
    Transfer cfg.host cfg.firmwareVersion cfg.maxPacketSize where
  env := sent.env
  call := sent.call
  stream := sent.submission.buffer.filterMap id
  length := sent.submission.length
  run_eq := by
    obtain ⟨stream, hstream⟩ := run_filled htwo sent.run_eq
    have hbuffer : (sent.submission.buffer.filterMap id).map some = sent.submission.buffer := by
      rw [hstream]
      simp
    rw [hbuffer]
    exact sent.run_eq

/-- Its packets, and what they are to draw. -/
def Sent.packets (sent : Sent cfg) : List (List UInt8) :=
  cut (packetSize cfg.maxPacketSize) (sent.submission.buffer.filterMap id)

def Sent.drawing (sent : Sent cfg) : Kind × Drawing :=
  (⟨sent.call.command cfg.firmwareVersion,
    sent.env.displayStatus &&& RPUSBDISP_DISPLAY_STATUS_DIRTY_FLAG ≠ 0⟩,
    drawingOf cfg.host cfg.firmwareVersion sent.call)

/-- The first packets of a submission are none, or begin its command. -/
theorem Sent.begins (htwo : 2 ≤ cfg.maxPacketSize.val) (sent : Sent cfg) (k : Nat) :
    sent.packets.take k = [] ∨ Begins sent.drawing (sent.packets.take k) := by
  cases k with
  | zero => exact Or.inl List.take_zero
  | succ k => exact Or.inr ((sent.transfer htwo).begins_take (Nat.succ_pos k))

end Filled

section Drawn

/-! ## What is drawn -/

/-- What was submitted under a number, of some submissions with what arrives of them. -/
def of (number : Nat) (sends : List (Sent cfg × Nat)) : List (Sent cfg × Nat) :=
  sends.filter fun s => s.1.caller = number

theorem of_calls {sends : List (Sent cfg × Nat)} (hsends : sends.map Prod.fst = w.shared.wire)
    (number : Nat) : (of number sends).map (fun s => s.1.call) = w.shared.sentBy number := by
  rw [State.sentBy, ← hsends, of, List.filter_map, List.map_map]
  rfl

/-- A display with packets of ten bytes, so that a rectangle takes two. -/
def tinyConfig : Config := ⟨.little, tinyPackets, 0x104, fun _ _ => [], .zeros⟩

/-- A rectangle and a fill by two threads at once, while another display's pipeline runs.  The
rectangle stalls. -/
def twoCalls : List Event :=
  [.others true, .call (.draw (.fillrect 1 2 3 4 7 0) .generous),
    .call (.draw (.fill 0xF800) .generous), .run 0 0, .run 0 0, .run 0 0, .run 0 0, .run 1 0, .run 1 0,
    .run 0 0, .run 1 0, .run 1 0, .run 1 0, .complete 0 .stall ⟨[], Nat.zero_le _⟩,
    .complete 1 .completed ⟨[], Nat.zero_le _⟩, .run 1 0, .run 0 0, .run 0 0, .run 1 0, .run 0 0,
    .run 1 0, .finish 0, .finish 0]

theorem twoCalls_happen : (after tinyConfig twoCalls).isSome = true := rfl

def twoCallsWorld : SdkWorld tinyConfig := (after tinyConfig twoCalls).get twoCalls_happen

/-- What is submitted after a time is none of the calls that had ended. -/
structure After (before w : SdkWorld cfg) : Prop where
  finished : ∀ f ∈ before.shared.finished, f ∈ w.shared.finished
  wire : ∃ more, w.shared.wire = before.shared.wire ++ more ∧
    ∀ sent ∈ more, ∀ f ∈ before.shared.finished, sent.caller ≠ f.number

theorem After.step {before : SdkWorld cfg} (hsound : Sound w) (h : After before w)
    (hstep : Step w e w') : After before w' := by
  obtain ⟨hfinished, more, hwire, hother⟩ := h
  cases hstep with
  | enter henter => cases henter <;> exact ⟨hfinished, more, hwire, hother⟩
  | again => exact ⟨hfinished, more, hwire, hother⟩
  | @run i result o k g r s hi heffect =>
      have hsame := heffect.threads_same.2.2
      refine ⟨fun f hf => hsame ▸ hfinished f hf, ?_⟩
      cases ho : o.draws with
      | false => exact ⟨more, (heffect.wire_same ho).trans hwire, hother⟩
      | true =>
          have hpre := (hsound.fine.pre hi).1
          cases heffect with
          | @submitDisplay t sent transfer ht =>
              refine ⟨more ++ [sent], ?_, ?_⟩
              · show w.shared.wire ++ [sent] = _
                rw [hwire, List.append_assoc]
              · intro x hx f hf
                rcases List.mem_append.mp hx with hx | hx
                · exact hother x hx f hf
                · rw [List.mem_singleton.mp hx, hpre.2]
                  exact ((hsound.split hi).numbered.other.2 f (hfinished f hf)).symm
          | refuseDisplay => exact ⟨more, hwire, hother⟩
          | _ => cases ho
  | finish hi hlast =>
      unfold State.retire
      split
      · exact ⟨fun f hf => List.mem_append_left _ (hfinished f hf), more, hwire, hother⟩
      · exact ⟨hfinished, more, hwire, hother⟩
      · exact ⟨hfinished, more, hwire, hother⟩
  | complete => exact ⟨hfinished, more, hwire, hother⟩
  | others => exact ⟨hfinished, more, hwire, hother⟩

/-- **The order of the calls** is the order of what they submit: where one call had ended before another one
began, everything that the first one submits comes before everything of the second one. -/
theorem calls_in_order (h : Reachable w) (hlater : Later w w') {f f' : Finished}
    (hf : f ∈ w.shared.finished) (hbegan : w.shared.nextNumber ≤ f'.number) :
    ∃ first second, w'.shared.wire = first ++ second ∧
      (∀ sent ∈ second, sent.caller ≠ f.number) ∧ ∀ sent ∈ first, sent.caller ≠ f'.number := by
  have hsound := reachable_sound h
  have hnow : After w w := ⟨fun _ hmem => hmem, [], (List.append_nil _).symm, fun _ hmem => by cases hmem⟩
  have hstill : Sound w' ∧ After w w' := by
    refine Later.invariant (I := fun x => Sound x ∧ After w x) ⟨hsound, hnow⟩ ?_ hlater
    exact fun x y _ hx _ hstep => ⟨hx.1.step hstep, hx.2.step hx.1 hstep⟩
  obtain ⟨more, hwire, hother⟩ := hstill.2.wire
  refine ⟨_, more, hwire, fun sent hmem => hother sent hmem f hf, fun sent hmem heq => ?_⟩
  have hbelow := hsound.agreed.numbered.none sent hmem
  omega

/-- A fill, while another display's pipeline runs. -/
def oneFill (color : UInt16) (t : Nat) : List Event :=
  [.call (.draw (.fill color) .generous), .run 0 0, .run 0 0, .run 0 0, .run 0 0, .run 0 0,
    .complete t .completed ⟨[], Nat.zero_le _⟩, .run 0 0, .run 0 0, .run 0 0, .finish 0]

theorem fill_happens : (after plainConfig (.others true :: oneFill 0xF800 0)).isSome = true := rfl

def filled : SdkWorld plainConfig :=
  (after plainConfig (.others true :: oneFill 0xF800 0)).get fill_happens

theorem fillAgain_happens : (Runs.after nextWorld filled (oneFill 7 1)).isSome = true := rfl

theorem calls_in_order_fills : ∃ first second,
    ((Runs.after nextWorld filled (oneFill 7 1)).get fillAgain_happens).shared.wire = first ++ second ∧
      (∀ sent ∈ second, sent.caller ≠ 0) ∧ ∀ sent ∈ first, sent.caller ≠ 1 := by
  obtain ⟨f, hf⟩ : ∃ f, filled.shared.finished = [f] := ⟨_, rfl⟩
  have hnumber : [f.number] = [0] := congrArg (List.map Finished.number) hf.symm
  have hlater : Later filled ((Runs.after nextWorld filled (oneFill 7 1)).get fillAgain_happens) :=
    Runs.Run.of_after (Option.some_get _).symm
  have hmem : f ∈ filled.shared.finished := by
    rw [hf]
    exact List.mem_cons_self
  have hbegan : filled.shared.nextNumber ≤ (⟨1, .getStatus, .done⟩ : Finished).number := Nat.le_refl 1
  have horder := calls_in_order (reachable_after fill_happens) hlater hmem hbegan
  rwa [List.singleton_inj.mp hnumber] at horder

end Drawn

end RpUsbDisp.SdkDevice
