import Mathlib.Algebra.Order.Group.Multiset
import Mathlib.Tactic.Abel
import RpUsbDisp.DisplayMemory

/-!
# Nothing is lost but a reference

The books of a display in every run of displays that come and go, with everything that
draws on them and completes for them in between.  What the driver gives back it has
(`Accounted.frees`), a ticket in the pool, with a thread or in flight is never one that
was given back, a display that is driven has exactly what it needs, and of one that is
gone only the reference to its `struct usb_device` is left: `rpusbdisp_probe` takes it
and nothing returns it (`memory_accounted`).
-/

namespace RpUsbDisp.Hotplug

open Programs

/-! ## The books and the shares -/

/-- What a share comes to beside tickets. -/
def Share.fixed (s : Share) : Multiset Possession :=
  (if s.struct then {.struct} else 0) + (if s.usbDevice then {.usbDevice} else 0) +
    (if s.statusUrb then {.statusUrb} else 0)

/-- The ticket in the hand of the release loop. -/
def Pool.hand : Pool → Multiset Possession
  | .left _ (some id) => {.leaving id}
  | _ => 0

/-- These are the tickets in circulation, of a pool with `dispUrbCount` tickets. -/
def Pool.Counts (dispUrbCount : Nat) (ids : Multiset Nat) : Pool → Prop
  | .none => ids = 0
  | .whole => ids = Multiset.range dispUrbCount
  | .left count _ => ids.card = count

/-- The books say what the share says. -/
def Share.Fits (s : Share) (dispUrbCount : Nat) (b : Multiset Possession) : Prop :=
  ∃ ids, b = s.fixed + ids.map .ticket + s.pool.hand ∧ s.pool.Counts dispUrbCount ids

/-- What a display that is driven has. -/
def driven (dispUrbCount : Nat) : Multiset Possession :=
  {.struct} + {.usbDevice} + {.statusUrb} + (Multiset.range dispUrbCount).map .ticket

theorem Share.fits_empty {n : Nat} {b : Multiset Possession} : Share.Fits {} n b ↔ b = 0 := by
  constructor
  · intro h
    obtain ⟨ids, rfl, rfl⟩ := h
    rfl
  · intro h
    exact ⟨0, h, rfl⟩

theorem Share.fits_full {n : Nat} {b : Multiset Possession} : Share.full.Fits n b ↔ b = driven n := by
  constructor
  · intro h
    obtain ⟨ids, rfl, rfl⟩ := h
    exact add_zero _
  · intro h
    exact ⟨_, h.trans (add_zero _).symm, rfl⟩

/-- What is left of a share that has been returned. -/
theorem Share.Fits.returned {s : Share} {n : Nat} {b : Multiset Possession} (h : s.Fits n b)
    (hreturned : s.Returned) : b = if s.usbDevice then {.usbDevice} else 0 := by
  obtain ⟨struct, usbDevice, statusUrb, pool⟩ := s
  obtain ⟨hstruct, hurb, hpool⟩ := hreturned
  obtain ⟨ids, rfl, hcounts⟩ := h
  obtain rfl : struct = false := hstruct
  obtain rfl : statusUrb = false := hurb
  have hnone : ids = 0 ∧ pool.hand = 0 := by
    rcases hpool with hpool | hpool
    · obtain rfl : pool = .none := hpool
      exact ⟨hcounts, rfl⟩
    · obtain rfl : pool = .left 0 none := hpool
      exact ⟨Multiset.card_eq_zero.mp hcounts, rfl⟩
  obtain ⟨rfl, hhand⟩ := hnone
  show Share.fixed _ + Multiset.map _ 0 + pool.hand = _
  rw [hhand, Multiset.map_zero, add_zero, add_zero, Share.fixed]
  simp

theorem Share.fixed_statusUrb (struct usbDevice : Bool) (pool pool' : Pool) :
    (Share.mk struct usbDevice true pool).fixed =
      (Share.mk struct usbDevice false pool').fixed + {.statusUrb} := by
  simp [Share.fixed]

theorem Share.fixed_struct (usbDevice statusUrb : Bool) (pool pool' : Pool) :
    (Share.mk true usbDevice statusUrb pool).fixed =
      (Share.mk false usbDevice statusUrb pool').fixed + {.struct} := by
  simp only [Share.fixed, if_true, Bool.false_eq_true, if_false]
  abel

/-- A ticket in circulation is counted once for every time it is there. -/
theorem Share.count_ticket {s : Share} {b : Multiset Possession} {ids : Multiset Nat}
    (h : b = s.fixed + ids.map .ticket + s.pool.hand) (id : Nat) :
    b.count (.ticket id) = ids.count id := by
  have hinj : Function.Injective Possession.ticket := fun _ _ heq => Possession.ticket.inj heq
  have hfixed : s.fixed.count (.ticket id) = 0 := by
    apply Multiset.count_eq_zero_of_notMem
    unfold Share.fixed
    intro hmem
    rcases Multiset.mem_add.mp hmem with hmem | hmem
    · rcases Multiset.mem_add.mp hmem with hmem | hmem
      · split at hmem <;> simp at hmem
      · split at hmem <;> simp at hmem
    · split at hmem <;> simp at hmem
  have hhand : s.pool.hand.count (.ticket id) = 0 := by
    apply Multiset.count_eq_zero_of_notMem
    unfold Pool.hand
    intro hmem
    split at hmem <;> simp at hmem
  rw [h, Multiset.count_add, Multiset.count_add, hfixed, hhand,
    Multiset.count_map_eq_count' _ _ hinj, Nat.zero_add, Nat.add_zero]

/-- Operations that the books are not about. -/
theorem DisplayOp.unbooked_entry {o : DisplayOp} (h : o.Booked = false) (r : o.Res) (c : HostChoice) :
    o.gives r = 0 ∧ o.gets r c = 0 := by
  cases o with
  | request what =>
      cases what with
      | kzalloc => cases h
      | usbAllocUrb => cases h
      | _ => exact ⟨rfl, rfl⟩
  | aside what =>
      cases what with
      | usbFreeUrb => cases h
      | freeTicket ticket => cases h
      | _ => exact ⟨rfl, rfl⟩
  | allocDispTickets => cases h
  | dispUrbCount => cases h
  | takeTicket => cases h
  | kfree => cases h
  | probed retval => cases h
  | disconnected => cases h
  | _ => exact ⟨rfl, rfl⟩

/-- Only `_on_alloc_disp_tickets_pool` sets the number of tickets. -/
theorem display_urbCount {dev : Dev} {x x' : DisplayState} {o : DisplayOp} {r : o.Res} {c : HostChoice}
    (h : x.exec dev o c = some (r, x')) (ho : o ≠ .allocDispTickets) :
    x'.usb.pool.dispUrbCount = x.usb.pool.dispUrbCount := by
  cases o with
  | usb o =>
      obtain ⟨⟨_, u⟩, hexec, heq⟩ := Option.map_eq_some_iff.mp h
      cases heq
      show u.pool.dispUrbCount = _
      cases o with
      | sellTickets n =>
          cases hexec
          show (x.usb.pool.sell n).2.dispUrbCount = _
          unfold TicketPool.sell
          split <;> rfl
      | submitUrb site t =>
          cases hsubmit : c.submit <;> rw [hsubmit] at hexec <;> cases hexec <;> rfl
      | _ =>
          cases hexec
          rfl
  | allocDispTickets => exact absurd rfl ho
  | killStatusUrb =>
      simp only [DisplayState.exec] at h
      split at h
      · cases h
      · cases h
        rfl
  | cancelDelayedWorkSync =>
      simp only [DisplayState.exec] at h
      split at h
      · cases h
      · cases h
        rfl
  | takeTicket =>
      simp only [DisplayState.exec] at h
      split at h
      · cases h
        rfl
      · cases h
  | _ =>
      cases h
      rfl

/-! ### Operations on a share -/

section Operations

variable {struct usbDevice statusUrb : Bool} {pool : Pool} {n count id : Nat} {b : Multiset Possession}

theorem Share.Fits.kzalloc (h : Share.Fits {} n b) (granted : Bool) :
    (Share.mk granted granted false .none).Fits n
      (b + if granted then {.struct, .usbDevice} else 0) := by
  obtain rfl := Share.fits_empty.mp h
  refine ⟨0, ?_, rfl⟩
  cases granted <;> simp [Share.fixed, Pool.hand]

theorem Share.Fits.usbAllocUrb (h : (Share.mk struct usbDevice false pool).Fits n b) (granted : Bool) :
    (Share.mk struct usbDevice granted pool).Fits n (b + if granted then {.statusUrb} else 0) := by
  obtain ⟨ids, rfl, hcounts⟩ := h
  refine ⟨ids, ?_, hcounts⟩
  cases granted with
  | false => exact add_zero _
  | true =>
      rw [Share.fixed_statusUrb struct usbDevice pool pool, if_pos rfl]
      abel

/-- The first tickets. -/
theorem Share.Fits.allocDispTickets (h : (Share.mk struct usbDevice statusUrb .none).Fits n b) :
    (Share.mk struct usbDevice statusUrb (if 0 < count then .whole else .none)).Fits count
      (b + (Multiset.range count).map .ticket) := by
  obtain ⟨ids, rfl, hcounts⟩ := h
  obtain rfl : ids = 0 := hcounts
  by_cases hsome : 0 < count
  · rw [if_pos hsome]
    refine ⟨Multiset.range count, ?_, rfl⟩
    rw [Multiset.map_zero, add_zero]
    show Share.fixed _ + 0 + _ = Share.fixed _ + _ + 0
    rw [add_zero, add_zero]
    rfl
  · rw [if_neg hsome, Nat.eq_zero_of_not_pos hsome]
    exact ⟨0, add_zero _, rfl⟩

/-- The release loop begins. -/
theorem Share.Fits.dispUrbCount (h : (Share.mk struct usbDevice statusUrb .whole).Fits n b) :
    (Share.mk struct usbDevice statusUrb (.left n none)).Fits n b := by
  obtain ⟨ids, hb, hcounts⟩ := h
  obtain rfl : ids = Multiset.range n := hcounts
  exact ⟨_, hb, Multiset.card_range n⟩

/-- It takes a ticket that is there. -/
theorem Share.Fits.takeTicket
    (h : (Share.mk struct usbDevice statusUrb (.left (count + 1) none)).Fits n b)
    (hticket : Possession.ticket id ∈ b) :
    (Share.mk struct usbDevice statusUrb (.left count (some id))).Fits n
      (b - {.ticket id} + {.leaving id}) := by
  obtain ⟨ids, hb, hcounts⟩ := h
  have hmem : id ∈ ids := by
    rw [← Multiset.count_pos, Share.count_ticket hb id] at hticket
    exact Multiset.count_pos.mp hticket
  have hids : ids.map Possession.ticket = (ids.erase id).map .ticket + {.ticket id} := by
    rw [← Multiset.cons_erase hmem, Multiset.map_cons, Multiset.erase_cons_head,
      ← Multiset.singleton_add, add_comm]
  have hsum : b = Share.fixed ⟨struct, usbDevice, statusUrb, .left (count + 1) none⟩ +
      (ids.erase id).map .ticket + {.ticket id} := by
    rw [hb, hids]
    show _ + 0 = _
    rw [add_zero, add_assoc]
  have hcard : ids.card = count + 1 := hcounts
  refine ⟨ids.erase id, ?_, ?_⟩
  · rw [hsum, add_tsub_cancel_right]
    rfl
  · show (ids.erase id).card = count
    rw [Multiset.card_erase_of_mem hmem, hcard]
    rfl

/-- And frees it. -/
theorem Share.Fits.freeTicket
    (h : (Share.mk struct usbDevice statusUrb (.left count (some id))).Fits n b) :
    (Share.mk struct usbDevice statusUrb (.left count none)).Fits n (b - {.leaving id}) := by
  obtain ⟨ids, rfl, hcounts⟩ := h
  refine ⟨ids, ?_, hcounts⟩
  show Share.fixed _ + _ + {Possession.leaving id} - _ = _
  rw [add_tsub_cancel_right]
  exact (add_zero _).symm

theorem Share.Fits.usbFreeUrb (h : (Share.mk struct usbDevice true pool).Fits n b) :
    (Share.mk struct usbDevice false pool).Fits n (b - {.statusUrb}) := by
  obtain ⟨ids, rfl, hcounts⟩ := h
  refine ⟨ids, ?_, hcounts⟩
  rw [Share.fixed_statusUrb struct usbDevice pool pool, add_right_comm _ _ (ids.map _),
    add_right_comm _ _ pool.hand, add_tsub_cancel_right]

theorem Share.Fits.kfree (h : (Share.mk true usbDevice statusUrb pool).Fits n b) :
    (Share.mk false usbDevice statusUrb pool).Fits n (b - {.struct}) := by
  obtain ⟨ids, rfl, hcounts⟩ := h
  refine ⟨ids, ?_, hcounts⟩
  rw [Share.fixed_struct usbDevice statusUrb pool pool, add_right_comm _ _ (ids.map _),
    add_right_comm _ _ pool.hand, add_tsub_cancel_right]

end Operations

/-- **An operation on a share** is entered in the books. -/
theorem Share.Fits.next {dev : Dev} {x x' : DisplayState} {o : DisplayOp} {r : o.Res} {c : HostChoice}
    {s s' : Share} {b : Multiset Possession} (h : s.Fits x.usb.pool.dispUrbCount b) (hmay : s.May o)
    (hexec : x.exec dev o c = some (r, x'))
    (hlist : ∀ t ∈ x.usb.pool.list, Possession.ticket t.id ∈ b) (hnext : s.next o r = some s') :
    s'.Fits x'.usb.pool.dispUrbCount (b - o.gives r + o.gets r c) := by
  cases hbooked : o.Booked with
  | false =>
      obtain ⟨hgives, hgets⟩ := DisplayOp.unbooked_entry hbooked r c
      have hcount := display_urbCount hexec (by intro heq; rw [heq] at hbooked; cases hbooked)
      obtain rfl := Option.some.inj ((Share.unbooked hbooked).2 r ▸ hnext)
      rw [hgives, hgets, hcount, tsub_zero, add_zero]
      exact h
  | true =>
      obtain ⟨struct, usbDevice, statusUrb, pool⟩ := s
      cases o with
      | request what =>
          cases what with
          | kzalloc =>
              cases hmay
              cases hexec
              cases hnext
              show Share.Fits _ _ (b - 0 + _)
              rw [tsub_zero]
              exact h.kzalloc c.granted
          | usbAllocUrb =>
              obtain rfl : statusUrb = false := hmay
              cases hexec
              cases hnext
              show Share.Fits _ _ (b - 0 + _)
              rw [tsub_zero]
              exact h.usbAllocUrb c.granted
          | _ => cases hbooked
      | allocDispTickets =>
          obtain rfl : pool = .none := hmay
          cases hexec
          cases hnext
          show Share.Fits ⟨_, _, _, if decide (0 < c.buffers.list.length) then _ else _⟩ _ (b - 0 + _)
          simp only [tsub_zero, decide_eq_true_eq]
          exact h.allocDispTickets
      | dispUrbCount =>
          obtain rfl : pool = .whole := hmay
          cases hexec
          cases hnext
          show Share.Fits _ _ (b - 0 + 0)
          rw [tsub_zero, add_zero]
          exact h.dispUrbCount
      | takeTicket =>
          obtain ⟨count, hpool⟩ := hmay
          obtain rfl : pool = .left (count + 1) none := hpool
          simp only [DisplayState.exec] at hexec
          split at hexec
          · rename_i n t rest havailiable hpoolList
            cases hexec
            cases hnext
            exact h.takeTicket (hlist r (hpoolList ▸ List.mem_cons_self))
          · cases hexec
      | aside what =>
          cases what with
          | usbFreeUrb =>
              obtain rfl : statusUrb = true := hmay
              cases hexec
              cases hnext
              exact (add_zero (b - {Possession.statusUrb})).symm ▸ h.usbFreeUrb
          | freeTicket ticket =>
              obtain ⟨count, hpool⟩ := hmay
              obtain rfl : pool = .left count (some ticket.id) := hpool
              cases hexec
              cases hnext
              exact (add_zero (b - {Possession.leaving ticket.id})).symm ▸ h.freeTicket
          | _ => cases hbooked
      | kfree =>
          obtain rfl : struct = true := hmay
          cases hexec
          cases hnext
          exact (add_zero (b - {Possession.struct})).symm ▸ h.kfree
      | probed retval => cases hnext
      | disconnected => cases hnext
      | _ => cases hbooked

/-! ## What is in circulation -/

/-- How often a thread holds ticket `id` of display `d`. -/
def Serving.holds (serving : Serving) (d id : Nat) : Nat :=
  match serving with
  | some (d', call) => if d' = d then call.held.count id else 0
  | none => 0

/-- How often a ticket is in the pool or in flight. -/
def DisplayState.around (x : DisplayState) (id : Nat) : Nat :=
  (x.usb.pool.list.map Ticket.id).count id + (x.usb.inFlight.map Ticket.id).count id

section Circulation

variable {info : Nat → Dev} {g : Ghost} {d id : Nat}

/-- An operation of the display pipe moves tickets. -/
theorem usb_circulates {o : UsbOp} {u u' : UsbState} {r : o.Res} {choice : SubmitResult}
    (hmay : g.MayDo info d (.usb o)) (h : u.exec o choice = some (r, u')) :
    (u'.pool.list.map Ticket.id).count id + (u'.inFlight.map Ticket.id).count id +
        (g.serving.next (.dev d (.usb o)) r).holds d id =
      (u.pool.list.map Ticket.id).count id + (u.inFlight.map Ticket.id).count id +
        g.serving.holds d id := by
  have hidle : (∀ call : Call, call.track o r = call) → u' = u →
      (u'.pool.list.map Ticket.id).count id + (u'.inFlight.map Ticket.id).count id +
          (g.serving.next (.dev d (.usb o)) r).holds d id =
        (u.pool.list.map Ticket.id).count id + (u.inFlight.map Ticket.id).count id +
          g.serving.holds d id := by
    intro htrack hsame
    have hserving : g.serving.next (.dev d (.usb o)) r = g.serving := by
      cases hserving : g.serving with
      | none => rfl
      | some served => exact congrArg some (Prod.ext rfl (htrack served.2))
    rw [hserving, hsame]
  have hmoves : (∃ call, g.serving = some (d, call) ∧
      (callProtocol (info d) RPUSBDISP_MAX_TRANSFER_SIZE).pre call o) →
      (u'.pool.list.map Ticket.id).count id + (u'.inFlight.map Ticket.id).count id +
          (g.serving.next (.dev d (.usb o)) r).holds d id =
        (u.pool.list.map Ticket.id).count id + (u.inFlight.map Ticket.id).count id +
          g.serving.holds d id := by
    intro hparts
    obtain ⟨call, hserving, hpre⟩ := hparts
    have hperm := List.perm_iff_count.mp (UsbState.exec_moves hpre h).1 id
    simp only [List.count_append] at hperm
    rw [hserving]
    show _ + _ + (if d = d then (call.track o r).held.count id else 0) =
      _ + _ + (if d = d then call.held.count id else 0)
    rw [if_pos rfl, if_pos rfl]
    omega
  cases o with
  | isAlive =>
      cases h
      exact hidle (fun _ => rfl) rfl
  | scheduleCompletionWork =>
      cases h
      exact hidle (fun _ => rfl) rfl
  | _ => exact hmoves hmay

/-- What is done to one display does not move the tickets of another. -/
theorem MayDo.holds_other {e : Nat} {o : DisplayOp} (hmay : g.MayDo info e o) (r : o.Res)
    (hne : d ≠ e) : (g.serving.next (.dev e o) r).holds d id = g.serving.holds d id := by
  cases o with
  | usb o =>
      cases hserving : g.serving with
      | none => rfl
      | some served =>
          obtain ⟨d', call⟩ := served
          by_cases hd : d' = d
          · have hsame : call.track o r = call := by
              cases o with
              | isAlive => rfl
              | scheduleCompletionWork => rfl
              | setUnsyncFlag => rfl
              | _ =>
                  obtain ⟨_, hcall, _⟩ := hmay
                  rw [hserving] at hcall
                  obtain ⟨rfl, _⟩ := Prod.mk.inj (Option.some.inj hcall)
                  exact absurd hd.symm hne
            show (if d' = d then (call.track o r).held.count id else 0) = _
            rw [hsame]
            rfl
          · show (if d' = d then (call.track o r).held.count id else 0) =
              if d' = d then call.held.count id else 0
            rw [if_neg hd, if_neg hd]
  | _ => rfl

/-- Outside the displays tickets are given up at most. -/
theorem holds_outside {o : HostOp} {r : o.Res} (hdev : ∀ e o', o ≠ .dev e o') :
    (g.serving.next o r).holds d id ≤ g.serving.holds d id := by
  cases o with
  | dev e o' => exact absurd rfl (hdev e o')
  | callDisplay e send =>
      show (if e = d then ([] : List Nat).count id else 0) ≤ _
      split <;> exact Nat.zero_le _
  | fb o =>
      cases o with
      | unlockOperation => exact Nat.zero_le _
      | _ => exact Nat.le_refl _
  | _ => exact Nat.le_refl _

section Books

variable {x : DisplayState} {b : Multiset Possession} {held : Nat}

/-- The first tickets are numbered from 0 on. -/
theorem allocDispTickets_circulates (dev : Dev) (buffers : List (List UInt8))
    (hzero : b.count (.ticket id) = 0) (hcirculates : x.around id + held ≤ b.count (.ticket id)) :
    DisplayState.around { x with usb := { x.usb with pool := allocDispTicketsPool dev buffers } } id +
        held ≤ (b + (Multiset.range buffers.length).map Possession.ticket).count (.ticket id) := by
  have hids : (allocDispTicketsPool dev buffers).list.map Ticket.id = List.range buffers.length := by
    apply List.ext_getElem
    · simp [allocDispTicketsPool]
    · intro k hk hk'
      simp [allocDispTicketsPool]
  have hinj : Function.Injective Possession.ticket := fun _ _ heq => Possession.ticket.inj heq
  have hgot : (b + (Multiset.range buffers.length).map Possession.ticket).count (.ticket id) =
      (List.range buffers.length).count id := by
    rw [Multiset.count_add, hzero, Nat.zero_add, Multiset.count_map_eq_count' _ _ hinj]
    exact Multiset.coe_count id _
  show ((allocDispTicketsPool dev buffers).list.map Ticket.id).count id +
    (x.usb.inFlight.map Ticket.id).count id + held ≤ _
  rw [hids, hgot]
  unfold DisplayState.around at hcirculates
  omega

/-- A ticket that the release loop takes no longer circulates. -/
theorem takeTicket_circulates {t : Ticket} {tail : List Ticket} {n : Nat}
    (hlist : x.usb.pool.list = t :: tail) (hcirculates : x.around id + held ≤ b.count (.ticket id)) :
    DisplayState.around
        { x with
          usb := { x.usb with pool := { x.usb.pool with list := tail, availiableCount := n } }
          taken := x.taken + 1 } id + held ≤
      (b - {.ticket t.id} + {.leaving t.id}).count (.ticket id) := by
  unfold DisplayState.around at hcirculates ⊢
  rw [hlist, List.map_cons, List.count_cons] at hcirculates
  show (tail.map Ticket.id).count id + (x.usb.inFlight.map Ticket.id).count id + held ≤ _
  rw [Multiset.count_add, Multiset.count_sub, Multiset.count_singleton, Multiset.count_singleton,
    if_neg (show ¬ Possession.ticket id = Possession.leaving t.id by simp)]
  by_cases hid : t.id = id
  · rw [if_pos (by rw [hid])]
    rw [if_pos (beq_iff_eq.mpr hid)] at hcirculates
    omega
  · rw [if_neg (fun heq => hid (Possession.ticket.inj heq).symm)]
    omega

/-- What is given back that is no ticket leaves the tickets. -/
theorem count_given (p : Possession) (hp : p ≠ .ticket id) :
    (b - {p} + 0).count (.ticket id) = b.count (.ticket id) := by
  rw [add_zero, Multiset.count_sub, Multiset.count_singleton, if_neg hp.symm, Nat.sub_zero]

theorem count_same : (b - 0 + 0).count (.ticket id) = b.count (.ticket id) := by
  rw [tsub_zero, add_zero]

end Books

/-- **What circulates of a ticket** is in the books. -/
theorem display_circulates {x x' : DisplayState} {o : DisplayOp} {r : o.Res} {c : HostChoice}
    {b : Multiset Possession} {rest : Nat} (hmay : g.MayDo info d o)
    (h : x.exec (info d) o c = some (r, x'))
    (hallocating : o = .allocDispTickets → b.count (.ticket id) = 0)
    (hcirculates : x.around id + (rest + g.serving.holds d id) ≤ b.count (.ticket id)) :
    x'.around id + (rest + (g.serving.next (.dev d o) r).holds d id) ≤
      (b - o.gives r + o.gets r c).count (.ticket id) := by
  cases o with
  | usb o =>
      obtain ⟨⟨r', u⟩, hexec, heq⟩ := Option.map_eq_some_iff.mp h
      cases heq
      have hmoved : (u.pool.list.map Ticket.id).count id + (u.inFlight.map Ticket.id).count id +
          (g.serving.next (.dev d (.usb o)) r').holds d id =
        (x.usb.pool.list.map Ticket.id).count id + (x.usb.inFlight.map Ticket.id).count id +
          g.serving.holds d id := usb_circulates hmay hexec
      show (u.pool.list.map Ticket.id).count id + (u.inFlight.map Ticket.id).count id +
        (rest + (g.serving.next (.dev d (.usb o)) r').holds d id) ≤ (b - 0 + 0).count _
      rw [count_same]
      unfold DisplayState.around at hcirculates
      omega
  | allocDispTickets =>
      cases h
      show _ ≤ (b - 0 + _).count _
      rw [tsub_zero]
      exact allocDispTickets_circulates _ _ (hallocating rfl) hcirculates
  | takeTicket =>
      simp only [DisplayState.exec] at h
      split at h
      · rename_i n t tail havailiable hlist
        cases h
        exact takeTicket_circulates hlist hcirculates
      · cases h
  | request what =>
      cases h
      cases what with
      | kzalloc =>
          show _ ≤ (b - 0 + _).count _
          rw [tsub_zero, Multiset.count_add]
          exact Nat.le_trans hcirculates (Nat.le_add_right _ _)
      | usbAllocUrb =>
          show _ ≤ (b - 0 + _).count _
          rw [tsub_zero, Multiset.count_add]
          exact Nat.le_trans hcirculates (Nat.le_add_right _ _)
      | _ => exact hcirculates.trans_eq count_same.symm
  | aside what =>
      cases h
      cases what with
      | usbFreeUrb => exact hcirculates.trans_eq (count_given .statusUrb (by simp)).symm
      | freeTicket ticket => exact hcirculates.trans_eq (count_given (.leaving ticket.id) (by simp)).symm
      | _ => exact hcirculates.trans_eq count_same.symm
  | kfree =>
      cases h
      exact hcirculates.trans_eq (count_given .struct (by simp)).symm
  | killStatusUrb =>
      simp only [DisplayState.exec] at h
      split at h
      · cases h
      · cases h
        exact hcirculates.trans_eq count_same.symm
  | cancelDelayedWorkSync =>
      simp only [DisplayState.exec] at h
      split at h
      · cases h
      · cases h
        exact hcirculates.trans_eq count_same.symm
  | _ =>
      cases h
      exact hcirculates.trans_eq count_same.symm

end Circulation

section Worlds

/-! ## The accounts -/

variable {info : Nat → Dev} {palette : UInt32 → Pixel} {w w' : HostWorld} {a : Arch} {d : Nat}
  {b : Multiset Possession}

/-- The probing or the removal of a display has its share, and nobody else has one. -/
structure Ghost.Holds (d dispUrbCount : Nat) (b : Multiset Possession) (g : Ghost)
    (share : Option Share) : Prop where
  life : g.role.token = some (d, .life) → ∃ s, share = some s ∧ s.Fits dispUrbCount b
  other : g.role.token ≠ some (d, .life) → share = none

/-- What the books say of a display that is neither probed nor removed. -/
structure DisplayState.Rests (x : DisplayState) (b : Multiset Possession) : Prop where
  unknown : x.core = .unknown → b = 0
  attached : x.core = .attached → b = driven x.usb.pool.dispUrbCount
  gone : x.core = .gone → b = {.usbDevice} ∨ b = 0 ∧ x.killed = false

/-- **The invariant of the books** of display `d`. -/
structure Accounted (d : Nat) (w : HostWorld) (b : Multiset Possession) : Prop where
  threads : w.Heeds (memoryProtocol d) (fun _ => True) (fun _ _ => True)
    (Ghost.Holds d (w.shared.dev d).usb.pool.dispUrbCount b)
  rests : (w.shared.dev d).Rests b
  circulates : ∀ id, (w.shared.dev d).around id +
    total (fun g => g.serving.holds d id) w.threads ≤ b.count (.ticket id)

/-- Only the two ends of a life leave nothing of the share. -/
theorem Share.next_some {s : Share} {o : DisplayOp} (h : o.HandsBack = false) (r : o.Res) :
    ∃ s', s.next o r = some s' := by
  obtain ⟨struct, usbDevice, statusUrb, pool⟩ := s
  cases o with
  | request what => cases what <;> exact ⟨_, rfl⟩
  | aside what =>
      cases what with
      | freeTicket ticket => cases pool <;> exact ⟨_, rfl⟩
      | _ => exact ⟨_, rfl⟩
  | takeTicket =>
      cases pool with
      | left count hand => cases count <;> exact ⟨_, rfl⟩
      | _ => exact ⟨_, rfl⟩
  | probed retval => cases h
  | disconnected => cases h
  | _ => exact ⟨_, rfl⟩

/-- An operation on something else is not the end of a life. -/
theorem token_life_next {g : Ghost} {o : HostOp} {r : o.Res} (hmay : g.May info o)
    (hother : ∀ o', o ≠ .dev d o') :
    (g.role.next o r).token = some (d, .life) ↔ g.role.token = some (d, .life) := by
  refine ⟨Role.token_of_next hmay, fun hlife => ?_⟩
  rw [g.role.next_token r, hlife]
  intro e o' ho
  subst ho
  cases hback : o'.HandsBack with
  | false => rfl
  | true =>
      obtain ⟨⟨_, _, htoken⟩, _⟩ := MayDo.handsBack hmay hback r
      obtain ⟨rfl, _⟩ := Prod.mk.inj (Option.some.inj (htoken.symm.trans hlife))
      exact absurd rfl (hother o')

/-- The two ends of a life. -/
theorem MayDo.ends_life {g : Ghost} {o : DisplayOp} {ph : LifePhase} (hmay : g.MayDo info d o)
    (hrole : g.role = .life d ph) (hback : o.HandsBack = true) :
    (∃ retval, o = .probed retval) ∨ o = .disconnected := by
  cases o with
  | probed retval => exact Or.inl ⟨retval, rfl⟩
  | disconnected => exact Or.inr rfl
  | workDone =>
      have hwork : g.role = .work d := hmay
      exact absurd (hwork.symm.trans hrole) nofun
  | statusHandled =>
      have hstatus : g.role = .status d := hmay
      exact absurd (hstatus.symm.trans hrole) nofun
  | _ => cases hback

/-- **The end of a life**: a display that is driven has its full share, and one that is
gone has returned it. -/
theorem Share.Fits.rests {g : Ghost} {o : DisplayOp} {r : o.Res} {x x' : DisplayState} {c : HostChoice}
    {s : Share} {ph : LifePhase} {handle : Bool} (h : s.Fits x.usb.pool.dispUrbCount b)
    (hmay : g.MayDo info d o) (hrole : g.role = .life d ph) (hph : ph.Fits x.own handle)
    (hallowed : s.May o) (hexec : x.exec (info d) o c = some (r, x')) :
    x'.Rests (b - o.gives r + o.gets r c) := by
  cases hback : o.HandsBack with
  | false =>
      -- The life goes on, and the display is neither of the three.
      have hbusy : ∀ core, x'.core = core → core = .probing ∨ core = .leaving := by
        intro core hcase
        rw [← hcase, display_core hexec hback]
        exact hph.core
      exact ⟨fun hcase => absurd (hbusy _ hcase) (by simp),
        fun hcase => absurd (hbusy _ hcase) (by simp), fun hcase => absurd (hbusy _ hcase) (by simp)⟩
  | true =>
      have hsame : b - 0 + 0 = b := (add_zero _).trans (tsub_zero b)
      rcases MayDo.ends_life hmay hrole hback with ⟨retval, rfl⟩ | rfl
      · cases hexec
        show DisplayState.Rests _ (b - 0 + 0)
        rw [hsame]
        have hboth : if retval = 0 then s = .full else s.Returned ∧ s.pool = .none := hallowed
        by_cases hzero : retval = 0
        · rw [if_pos hzero] at hboth
          subst hboth
          have hcore : (if retval = 0 then CoreState.attached else .gone) = .attached := if_pos hzero
          exact ⟨fun hcase => absurd (hcore.symm.trans hcase) nofun, fun _ => Share.fits_full.mp h,
            fun hcase => absurd (hcore.symm.trans hcase) nofun⟩
        · rw [if_neg hzero] at hboth
          have hcore : (if retval = 0 then CoreState.attached else .gone) = .gone := if_neg hzero
          refine ⟨fun hcase => absurd (hcore.symm.trans hcase) nofun,
            fun hcase => absurd (hcore.symm.trans hcase) nofun, fun _ => ?_⟩
          have hkilled : x.killed = false := by
            rcases hmay with ⟨_, hrole'⟩ | ⟨hno, _⟩
            · obtain rfl : ph = .allocating := (Role.life.inj (hrole.symm.trans hrole')).2
              exact hph.2.1
            · exact absurd hno hzero
          rw [h.returned hboth.1]
          cases s.usbDevice with
          | true => exact Or.inl rfl
          | false => exact Or.inr ⟨rfl, hkilled⟩
      · cases hexec
        show DisplayState.Rests _ (b - 0 + 0)
        rw [hsame]
        obtain ⟨hreturned, husb⟩ := hallowed
        refine ⟨nofun, nofun, fun _ => Or.inl ?_⟩
        rw [h.returned hreturned, if_pos husb]

/-- One thread's tickets stand out of the whole. -/
theorem total_holds {i : Nat} {p : HostProg Unit} {g : Ghost} (hi : w.threads[i]? = some ⟨p, g⟩)
    (d id : Nat) : total (fun g => g.serving.holds d id) w.threads =
      total (fun g => g.serving.holds d id) (w.threads.eraseIdx i) + g.serving.holds d id :=
  total_eraseIdx hi

/-- A ticket in the pool is in the books. -/
theorem Accounted.listed (h : Accounted d w b) :
    ∀ t ∈ (w.shared.dev d).usb.pool.list, Possession.ticket t.id ∈ b := by
  intro t ht
  have hcount : 0 < ((w.shared.dev d).usb.pool.list.map Ticket.id).count t.id :=
    List.count_pos_iff.mpr (List.mem_map_of_mem ht)
  have hcirculates := h.circulates t.id
  unfold DisplayState.around at hcirculates
  exact Multiset.count_pos.mp (by omega)

/-- The tickets, after an operation on the display. -/
theorem Accounted.circulates_exec (h : Accounted d w b) (hosted : Hosted info w) {i : Nat}
    {o : DisplayOp} {k : o.Res → HostProg Unit} {g : Ghost} {r : o.Res} {x' : DisplayState}
    {c : HostChoice} (hi : w.threads[i]? = some ⟨.op (.dev d o) k, g⟩)
    (hexec : (w.shared.dev d).exec (info d) o c = some (r, x')) (id : Nat)
    (hallocating : o = .allocDispTickets → b.count (.ticket id) = 0) :
    ((w.shared.setDev d x').dev d).around id + total (fun g => g.serving.holds d id)
        (w.threads.set i ⟨k r, g.next (.dev d o) r⟩) ≤
      (b - o.gives r + o.gets r c).count (.ticket id) := by
  obtain ⟨hlt, _⟩ := List.getElem?_eq_some_iff.mp hi
  have hcirculates := h.circulates id
  rw [total_holds hi d id] at hcirculates
  rw [HostState.setDev_same, total_set _ hlt]
  exact display_circulates (hosted.fine.pre hi).2 hexec hallocating hcirculates

/-- **What the probing or the removal does** to its display. -/
theorem Accounted.exec_life (h : Accounted d w b) (hosted : Hosted info w) {i : Nat} {o : DisplayOp}
    {k : o.Res → HostProg Unit} {g : Ghost} {r : o.Res} {x' : DisplayState} {c : HostChoice}
    (hi : w.threads[i]? = some ⟨.op (.dev d o) k, g⟩)
    (hexec : (w.shared.dev d).exec (info d) o c = some (r, x'))
    (hlife : g.role.token = some (d, .life)) :
    Accounted d ⟨w.shared.setDev d x', w.threads.set i ⟨k r, g.next (.dev d o) r⟩⟩
      (b - o.gives r + o.gets r c) := by
  have hmay : g.MayDo info d o := (hosted.fine.pre hi).2
  have hknows : g.Knows w.shared := hosted.knows _ (List.mem_of_getElem? hi)
  obtain ⟨ph, hrole⟩ := Role.token_life.mp hlife
  have hfits := hknows.life d ph hrole
  obtain ⟨share, hpre, hholds⟩ := h.threads.pre hi
  obtain ⟨s, rfl, hs⟩ := hholds.life hlife
  have hallowed : s.May o := hpre rfl
  refine ⟨?_, ?_, ?_⟩
  · refine h.threads.set hi ?_ ?_
    · intro p hp hheld
      obtain ⟨sp, rfl, hsp⟩ := hheld.life hlife
      have htrack : (memoryProtocol d).track (some sp) (.dev d o) r = sp.next o r := if_pos rfl
      refine ⟨trivial, ?_⟩
      rw [htrack, HostState.setDev_same]
      cases hback : o.HandsBack with
      | false =>
          have htoken : (g.role.next (.dev d o) r).token = some (d, .life) := by
            rw [g.role.next_token (o := .dev d o) r, hlife]
            intro e o' ho
            cases ho
            exact hback
          obtain ⟨s', hnext⟩ := Share.next_some (s := sp) hback r
          refine ⟨fun _ => ⟨s', hnext, ?_⟩, fun hno => absurd htoken hno⟩
          exact hsp.next (hp rfl) hexec h.listed hnext
      | true =>
          obtain ⟨⟨kind, _, hkind⟩, htoken⟩ := MayDo.handsBack hmay hback r
          refine ⟨fun hlife' => absurd (htoken.symm.trans hlife') nofun, fun _ => ?_⟩
          rcases MayDo.ends_life hmay hrole hback with ⟨retval, rfl⟩ | rfl
          · rfl
          · rfl
    · intro j u hj hji p hp
      have hnone := hosted.one_life hi hj hji hlife
      exact ⟨fun hu => absurd hu hnone, fun _ => hp.other hnone⟩
  · show DisplayState.Rests ((w.shared.setDev d x').dev d) _
    rw [HostState.setDev_same]
    exact hs.rests hmay hrole hfits hallowed hexec
  · intro id
    refine h.circulates_exec hosted hi hexec id fun halloc => ?_
    subst halloc
    obtain ⟨ids, hb, hcounts⟩ := hs
    have hpool : s.pool = .none := hallowed
    rw [hpool] at hcounts
    have hnone : ids = 0 := hcounts
    rw [Share.count_ticket hb id, hnone]
    rfl

/-- **What others do** to the display. -/
theorem Accounted.exec_other (h : Accounted d w b) (hosted : Hosted info w) {i : Nat} {o : DisplayOp}
    {k : o.Res → HostProg Unit} {g : Ghost} {r : o.Res} {x' : DisplayState} {c : HostChoice}
    (hi : w.threads[i]? = some ⟨.op (.dev d o) k, g⟩)
    (hexec : (w.shared.dev d).exec (info d) o c = some (r, x'))
    (hlife : g.role.token ≠ some (d, .life)) :
    Accounted d ⟨w.shared.setDev d x', w.threads.set i ⟨k r, g.next (.dev d o) r⟩⟩
      (b - o.gives r + o.gets r c) := by
  have hmay : g.MayDo info d o := (hosted.fine.pre hi).2
  obtain ⟨share, hpre, hholds⟩ := h.threads.pre hi
  obtain rfl := hholds.other hlife
  have hbooked : o.Booked = false := hpre rfl
  obtain ⟨hgives, hgets⟩ := DisplayOp.unbooked_entry hbooked r c
  have hsame : b - o.gives r + o.gets r c = b := by
    rw [hgives, hgets, tsub_zero, add_zero]
  have hown : x'.own = (w.shared.dev d).own :=
    display_own hmay hexec fun ph hrole => hlife (Role.token_life.mpr ⟨ph, hrole⟩)
  have hcount : x'.usb.pool.dispUrbCount = (w.shared.dev d).usb.pool.dispUrbCount :=
    congrArg Own.dispUrbCount hown
  refine ⟨?_, ?_, ?_⟩
  · rw [hsame]
    refine h.threads.set hi ?_ ?_
    · intro p _ hp
      obtain rfl := hp.other hlife
      have htrack : (memoryProtocol d).track none (.dev d o) r = none := if_pos rfl
      rw [htrack]
      exact ⟨trivial, fun hlife' => absurd (Role.token_of_next (o := .dev d o) hmay hlife') hlife,
        fun _ => rfl⟩
    · intro j u _ _ p hp
      rw [HostState.setDev_same, hcount]
      exact hp
  · rw [hsame]
    show DisplayState.Rests ((w.shared.setDev d x').dev d) _
    rw [HostState.setDev_same]
    have hcore : x'.core = (w.shared.dev d).core := congrArg Own.core hown
    have hkilled : x'.killed = (w.shared.dev d).killed := congrArg Own.killed hown
    refine ⟨fun hcase => h.rests.unknown (hcore.symm.trans hcase), fun hcase => ?_, fun hcase => ?_⟩
    · rw [hcount]
      exact h.rests.attached (hcore.symm.trans hcase)
    · rw [hkilled]
      exact h.rests.gone (hcore.symm.trans hcase)
  · intro id
    refine h.circulates_exec hosted hi hexec id fun halloc => ?_
    rw [halloc] at hbooked
    cases hbooked

/-- **What is done to anything else.** -/
theorem Accounted.exec_elsewhere (h : Accounted d w b) (hosted : Hosted info w) {i : Nat} {o : HostOp}
    {k : o.Res → HostProg Unit} {g : Ghost} {r : o.Res} {s : HostState} {c : HostChoice}
    (hi : w.threads[i]? = some ⟨.op o k, g⟩) (hexec : w.shared.exec info palette o c = some (r, s))
    (hother : ∀ o', o ≠ .dev d o') :
    Accounted d ⟨s, w.threads.set i ⟨k r, g.next o r⟩⟩ b := by
  have hmay : g.May info o := (hosted.fine.pre hi).2
  obtain ⟨hlt, _⟩ := List.getElem?_eq_some_iff.mp hi
  have hsame : s.dev d = w.shared.dev d :=
    exec_display (R := fun x x' => x' = x) (fun _ => rfl) hexec d
      fun o' _ _ ho _ => absurd ho (hother o')
  have hshare : ∀ share, (memoryProtocol d).track share o r = share := by
    intro share
    cases o with
    | dev e o => exact if_neg fun he => hother o (by rw [he])
    | _ => rfl
  have hheld : ∀ id, (g.serving.next o r).holds d id ≤ g.serving.holds d id := by
    intro id
    cases o with
    | dev e o =>
        have hne : d ≠ e := fun he => hother o (by rw [he])
        exact Nat.le_of_eq (MayDo.holds_other hmay r hne)
    | _ => exact holds_outside nofun
  refine ⟨?_, ?_, ?_⟩
  · refine h.threads.set hi ?_ ?_
    · intro p _ hp
      rw [hshare, hsame]
      have htoken := token_life_next (r := r) hmay hother
      exact ⟨trivial, fun hlife => hp.life (htoken.mp hlife),
        fun hno => hp.other fun hlife => hno (htoken.mpr hlife)⟩
    · intro j u _ _ p hp
      rw [hsame]
      exact hp
  · show (s.dev d).Rests b
    rw [hsame]
    exact h.rests
  · intro id
    have htotal := total_holds hi d id
    have hcirculates := h.circulates id
    have hle : (g.next o r).serving.holds d id ≤ g.serving.holds d id := hheld id
    show (s.dev d).around id + total _ (w.threads.set i ⟨k r, g.next o r⟩) ≤ _
    rw [hsame, total_set _ hlt]
    show _ + (_ + (g.next o r).serving.holds d id) ≤ _
    omega

/-- **A thread does its next operation**, which is entered. -/
theorem Accounted.run {books : Books} (h : Accounted d w (books d)) (hosted : Hosted info w) {i : Nat}
    {c : HostChoice} (hnext : w.step (HostState.exec info palette) Ghost.next i c = some w') :
    Accounted d w' (w.enter (HostState.exec info palette) Books.entry i c books d) := by
  obtain ⟨o, k, g, r, s, hi, hexec, rfl⟩ := World.step_some hnext
  rw [World.enter_eq hi hexec]
  by_cases hdev : ∃ o', o = .dev d o'
  · obtain ⟨o', rfl⟩ := hdev
    obtain ⟨x', hdone, rfl⟩ := exec_dev hexec
    have hentry : Books.entry books (.dev d o') r c d =
        books d - o'.gives r + o'.gets r c := Function.update_self ..
    rw [hentry]
    by_cases hlife : g.role.token = some (d, .life)
    · exact h.exec_life hosted hi hdone hlife
    · exact h.exec_other hosted hi hdone hlife
  · have hother : ∀ o', o ≠ .dev d o' := fun o' ho => hdev ⟨o', ho⟩
    have hentry : Books.entry books o r c d = books d := by
      cases o with
      | dev e o' =>
          have hne : d ≠ e := fun he => hother o' (by rw [he])
          exact Function.update_of_ne hne ..
      | _ => rfl
    rw [hentry]
    exact h.exec_elsewhere hosted hi hexec hother

/-- **A thread starts.** -/
theorem Accounted.spawn (h : Accounted d w b) {s : HostState} {p : HostProg Unit} {g : Ghost}
    {share : Option Share} (hp : p.wp (memoryProtocol d) (fun _ => True) (fun _ _ => True) share)
    (hholds : g.Holds d (w.shared.dev d).usb.pool.dispUrbCount b share)
    (hcount : (s.dev d).usb.pool.dispUrbCount = (w.shared.dev d).usb.pool.dispUrbCount)
    (hrests : (s.dev d).Rests b)
    (haround : ∀ id, (s.dev d).around id + g.serving.holds d id ≤ (w.shared.dev d).around id) :
    Accounted d (w.spawn s p g) b := by
  refine ⟨?_, hrests, ?_⟩
  · show World.Heeds _ _ _ (Ghost.Holds d (s.dev d).usb.pool.dispUrbCount b) _
    rw [hcount]
    exact h.threads.spawn ⟨share, hp, hholds⟩ fun _ _ _ hu => hu
  · intro id
    have hcirculates := h.circulates id
    have hless := haround id
    show (s.dev d).around id + total _ (w.threads ++ [⟨p, g⟩]) ≤ _
    rw [total_append]
    show _ + (_ + g.serving.holds d id) ≤ _
    omega

/-- The share of who probes or removes display `e`. -/
theorem Share.holds_for {s : Share} {e n : Nat} {ph : LifePhase} (h : e = d → s.Fits n b) :
    Ghost.Holds d n b { role := .life e ph } (s.for e d) := by
  unfold Share.for
  by_cases he : e = d
  · subst he
    rw [if_pos rfl]
    exact ⟨fun _ => ⟨s, rfl, h rfl⟩, fun hno => absurd rfl hno⟩
  · rw [if_neg he]
    refine ⟨fun hlife => ?_, fun _ => rfl⟩
    cases hlife
    exact absurd rfl he

/-- **What starts a thread** leaves the books alone. -/
theorem Accounted.starts (h : Accounted d w b) {event : HostEvent a} {e : Nat} {x : DisplayState}
    {p : HostProg Unit} {g : Ghost} (hstarts : Starts info w event e x p g) :
    Accounted d (w.spawn (w.shared.setDev e x) p g) b := by
  have hweaken : ∀ {p : HostProg Unit} {Q : Unit → Option Share → Prop} {share : Option Share},
      p.wp (memoryProtocol d) (fun _ => True) Q share →
      p.wp (memoryProtocol d) (fun _ => True) (fun _ _ => True) share :=
    fun hp => wp_mono hp (fun _ he => he) fun _ _ _ => trivial
  have hset : ∀ R : DisplayState → Prop, (e ≠ d → R (w.shared.dev d)) → (e = d → R x) →
      R ((w.shared.setDev e x).dev d) := by
    intro R hother hself
    by_cases he : e = d
    · subst he
      rw [HostState.setDev_same]
      exact hself rfl
    · rw [w.shared.setDev_other x (Ne.symm he)]
      exact hother he
  have hcount : ((w.shared.setDev e x).dev d).usb.pool.dispUrbCount =
      (w.shared.dev d).usb.pool.dispUrbCount := by
    refine hset (fun y => y.usb.pool.dispUrbCount = (w.shared.dev d).usb.pool.dispUrbCount)
      (fun _ => rfl) ?_
    rintro rfl
    cases hstarts <;> rfl
  have hrests : ((w.shared.setDev e x).dev d).Rests b := by
    refine hset (fun y => y.Rests b) (fun _ => h.rests) ?_
    rintro rfl
    cases hstarts with
    | probe hunknown => exact ⟨nofun, nofun, nofun⟩
    | disconnect hattached => exact ⟨nofun, nofun, nofun⟩
    | _ => exact ⟨h.rests.unknown, h.rests.attached, h.rests.gone⟩
  have haround : ∀ id, ((w.shared.setDev e x).dev d).around id + g.serving.holds d id ≤
      (w.shared.dev d).around id := by
    intro id
    refine hset (fun y => y.around id + g.serving.holds d id ≤ (w.shared.dev d).around id) ?_ ?_
    · intro he
      cases hstarts with
      | complete hflight =>
          show _ + (if e = d then _ else 0) ≤ _
          rw [if_neg he]
          exact Nat.le_refl _
      | _ => exact Nat.le_refl _
    · rintro rfl
      cases hstarts with
      | complete hflight =>
          rename_i k status t
          obtain ⟨hlt, rfl⟩ := List.getElem?_eq_some_iff.mp hflight
          have hperm := ((List.getElem_cons_eraseIdx_perm hlt).map Ticket.id).count_eq id
          rw [List.map_cons, List.count_cons] at hperm
          show ((w.shared.dev e).usb.pool.list.map Ticket.id).count id +
            (((w.shared.dev e).usb.inFlight.eraseIdx k).map Ticket.id).count id +
            (if e = e then List.count id [((w.shared.dev e).usb.inFlight[k]).id] else 0) ≤
              ((w.shared.dev e).usb.pool.list.map Ticket.id).count id + _
          rw [if_pos rfl, List.count_singleton]
          omega
      | _ => exact Nat.le_refl _
  cases hstarts with
  | callback c =>
      exact h.spawn (hweaken (drawing_books _)) ⟨nofun, fun _ => rfl⟩ hcount hrests haround
  | defio pfns =>
      exact h.spawn (hweaken (drawing_books _)) ⟨nofun, fun _ => rfl⟩ hcount hrests haround
  | probe hunknown =>
      refine h.spawn probe_books (Share.holds_for ?_) hcount hrests haround
      rintro rfl
      exact Share.fits_empty.mpr (h.rests.unknown hunknown)
  | disconnect hattached =>
      refine h.spawn disconnect_books (Share.holds_for ?_) hcount hrests haround
      rintro rfl
      exact Share.fits_full.mpr (h.rests.attached hattached)
  | startWork hqueued => exact h.spawn work_books ⟨nofun, fun _ => rfl⟩ hcount hrests haround
  | complete hflight =>
      exact h.spawn (hweaken (pipe_books _)) ⟨nofun, fun _ => rfl⟩ hcount hrests haround
  | statusComplete hflight =>
      exact h.spawn (status_books _ _) ⟨nofun, fun _ => rfl⟩ hcount hrests haround

/-- **Step.** -/
theorem Accounted.next {books books' : Books} (h : Accounted d w (books d)) (hosted : Hosted info w)
    {e : HostEvent a} (hnext : nextBooked info palette (w, books) e = some (w', books')) :
    Accounted d w' (books' d) := by
  obtain ⟨w₁, hhost, heq⟩ := Option.map_eq_some_iff.mp hnext
  obtain ⟨rfl, hbooks⟩ := Prod.mk.inj heq
  rcases nextHost_some hhost with ⟨i, c, rfl⟩ | ⟨e', x, p, g, hstarts, rfl⟩
  · rw [← hbooks]
    exact h.run hosted hhost
  · have hsame : books' = books := by
      rw [← hbooks]
      cases hstarts <;> rfl
    rw [hsame]
    exact h.starts hstarts

/-- **What is given back is there.** -/
theorem Accounted.frees (h : Accounted d w b) {t : Thread HostOp HostOp.Res Unit Ghost}
    (ht : t ∈ w.threads) {o : DisplayOp} (ho : t.asks = some (.dev d o)) : o.frees ≤ b := by
  obtain ⟨share, hpre, hholds⟩ := h.threads.asks ht ho
  by_cases hlife : t.ghost.role.token = some (d, .life)
  · obtain ⟨s, rfl, ids, hb, -⟩ := hholds.life hlife
    have hmay : s.May o := hpre rfl
    obtain ⟨struct, usbDevice, statusUrb, pool⟩ := s
    cases o with
    | aside what =>
        cases what with
        | usbFreeUrb =>
            obtain rfl : statusUrb = true := hmay
            apply Multiset.singleton_le.mpr
            rw [hb]
            simp [Share.fixed]
        | freeTicket ticket =>
            obtain ⟨count, hpool⟩ := hmay
            obtain rfl : pool = .left count (some ticket.id) := hpool
            apply Multiset.singleton_le.mpr
            rw [hb]
            simp [Pool.hand]
        | _ => exact Multiset.zero_le b
    | kfree =>
        obtain rfl : struct = true := hmay
        apply Multiset.singleton_le.mpr
        rw [hb]
        simp [Share.fixed]
    | _ => exact Multiset.zero_le b
  · obtain rfl := hholds.other hlife
    have hbooked : o.Booked = false := hpre rfl
    have hnone : o.frees = 0 := by
      cases o with
      | aside what =>
          cases what with
          | usbFreeUrb => cases hbooked
          | freeTicket ticket => cases hbooked
          | _ => rfl
      | kfree => cases hbooked
      | _ => rfl
    rw [hnone]
    exact Multiset.zero_le b

/-- **Run.** -/
theorem Accounted.of_run {fb : FbState} {books : Books} (hunbound : Unbound fb)
    (run : Runs.Run (nextBooked info palette) (fun _ (_ : HostEvent a) => True)
      (loadedHost fb, fun _ => 0) (w, books)) : Accounted d w (books d) := by
  have hstart : Accounted d (loadedHost fb) 0 :=
    ⟨fun _ ht => absurd ht List.not_mem_nil, ⟨fun _ => rfl, nofun, nofun⟩, fun _ => Nat.le_refl 0⟩
  refine (run.invariant (I := fun s => Hosted info s.1 ∧ Accounted d s.1 (s.2 d))
    ⟨loadedHost_hosted hunbound, hstart⟩ ?_).2
  intro s s' e hs _ hnext
  obtain ⟨w₁, hhost, rfl⟩ := Option.map_eq_some_iff.mp hnext
  exact ⟨hs.1.next hhost, hs.2.next hs.1 hnext⟩

/-- Nothing gives the reference back. -/
theorem DisplayOp.keeps_reference (o : DisplayOp) (r : o.Res) : Possession.usbDevice ∉ o.gives r := by
  cases o with
  | aside what =>
      cases what with
      | usbFreeUrb => exact fun hmem => nomatch Multiset.mem_singleton.mp hmem
      | freeTicket ticket => exact fun hmem => nomatch Multiset.mem_singleton.mp hmem
      | _ => exact Multiset.notMem_zero _
  | takeTicket => exact fun hmem => nomatch Multiset.mem_singleton.mp hmem
  | kfree => exact fun hmem => nomatch Multiset.mem_singleton.mp hmem
  | _ => exact Multiset.notMem_zero _

theorem Books.keep_reference {books : Books} (h : Possession.usbDevice ∈ books d) (o : HostOp)
    (r : o.Res) (c : HostChoice) : Possession.usbDevice ∈ books.entry o r c d := by
  cases o with
  | dev e o =>
      by_cases he : d = e
      · subst he
        have hentry : books.entry (.dev d o) r c d = books d - o.gives r + o.gets r c :=
          Function.update_self ..
        have hgives := Multiset.count_eq_zero_of_notMem (o.keeps_reference r)
        have hcount := Multiset.count_pos.mpr h
        rw [hentry, ← Multiset.count_pos, Multiset.count_add, Multiset.count_sub, hgives]
        omega
      · have hentry : books.entry (.dev e o) r c d = books d := Function.update_of_ne he ..
        rw [hentry]
        exact h
  | _ => exact h

/-- **A reference that was got stays**, by induction on the run. -/
theorem reference_stays {books books' : Books} (h : Possession.usbDevice ∈ books d)
    (run : Runs.Run (nextBooked info palette) (fun _ (_ : HostEvent a) => True)
      (w, books) (w', books')) : Possession.usbDevice ∈ books' d := by
  refine run.invariant (I := fun s => Possession.usbDevice ∈ s.2 d) h ?_
  intro s s' e hs _ hnext
  obtain ⟨w₁, hhost, rfl⟩ := Option.map_eq_some_iff.mp hnext
  cases e with
  | run i c =>
      obtain ⟨o, k, g, r, s', hi, hexec, _⟩ := World.step_some hhost
      show Possession.usbDevice ∈ s.1.enter (HostState.exec info palette) Books.entry i c s.2 d
      rw [World.enter_eq hi hexec]
      exact Books.keep_reference hs o r c
  | _ => exact hs

end Worlds

/-- **The books of every run.**  What is given back is there, a ticket that is in the
pool, in flight or with a thread has not been given back, and a display that is driven
has what it needs.  Of a display that is gone the reference is left at most, and it is
left of everyone that has got it. -/
theorem memory_accounted {info : Nat → Dev} {palette : UInt32 → Pixel} {a : Arch} {fb : FbState}
    {w : HostWorld} {books : Books} (hunbound : Unbound fb)
    (run : Runs.Run (nextBooked info palette) (fun _ (_ : HostEvent a) => True)
      (loadedHost fb, fun _ => 0) (w, books)) :
    (∀ t ∈ w.threads, ∀ d o, t.asks = some (.dev d o) → o.frees ≤ books d) ∧
    ∀ d, (∀ id, (w.shared.dev d).around id + total (fun g => g.serving.holds d id) w.threads ≤
        (books d).count (.ticket id)) ∧
      ((w.shared.dev d).core = .unknown → books d = 0) ∧
      ((w.shared.dev d).core = .attached →
        books d = driven (w.shared.dev d).usb.pool.dispUrbCount) ∧
      ((w.shared.dev d).core = .gone →
        books d = {.usbDevice} ∨ books d = 0 ∧ (w.shared.dev d).killed = false) ∧
      ∀ w' books', Runs.Run (nextBooked info palette) (fun _ (_ : HostEvent a) => True)
          (w, books) (w', books') →
        .usbDevice ∈ books d → (w'.shared.dev d).core = .gone → books' d = {.usbDevice} := by
  have haccounted : ∀ d, Accounted d w (books d) := fun d => Accounted.of_run hunbound run
  refine ⟨fun t ht d o ho => (haccounted d).frees ht ho, fun d => ?_⟩
  obtain ⟨-, hrests, hcirculates⟩ := haccounted d
  refine ⟨hcirculates, hrests.unknown, hrests.attached, hrests.gone, fun w' books' later hgot hgone => ?_⟩
  have hend : Accounted d w' (books' d) := Accounted.of_run hunbound (run.trans later)
  rcases hend.rests.gone hgone with hleft | ⟨hnone, _⟩
  · exact hleft
  · have hstays := reference_stays hgot later
    rw [hnone] at hstays
    exact absurd hstays (Multiset.notMem_zero _)

/-- A display is plugged in. -/
def pluggedIn : List (HostEvent amd64) := [.probe 0] ++ List.replicate 22 (.run 0 plenty)

/-- It is pulled out again. -/
def unplugged : List (HostEvent amd64) :=
  [.disconnect 0] ++ List.replicate 9 (.run 1 plenty) ++ [.statusComplete 0 (-2) ⟨0, 0, 0, 0, 0⟩] ++
    List.replicate 2 (.run 2 plenty) ++ List.replicate 9 (.run 1 plenty)

/-- The reference is lost. -/
theorem memory_accounted_unplugged : ∃ w books w' books',
    Runs.Run (nextBooked (fun _ => .attached 64 0x0104 .little) (fun c => c.toUInt16))
      (fun _ (_ : HostEvent amd64) => True) (loadedHost neverBound, fun _ => 0) (w, books) ∧
    Runs.Run (nextBooked (fun _ => .attached 64 0x0104 .little) (fun c => c.toUInt16))
      (fun _ (_ : HostEvent amd64) => True) (w, books) (w', books') ∧
    books 0 = driven (w.shared.dev 0).usb.pool.dispUrbCount ∧ books' 0 = {.usbDevice} := by
  have hends : (Runs.after (nextBooked (fun _ => .attached 64 0x0104 .little) (fun c => c.toUInt16))
      (loadedHost neverBound, fun _ => 0) pluggedIn).any (fun s =>
        (s.1.shared.dev 0).core = .attached &&
        (Runs.after (nextBooked (fun _ => .attached 64 0x0104 .little) (fun c => c.toUInt16))
          s unplugged).any fun s => (s.1.shared.dev 0).core = .gone) = true := by
    decide +kernel
  obtain ⟨⟨w, books⟩, hafter, hboth⟩ := (Option.any_eq_true _ _).mp hends
  obtain ⟨hattached, hlater⟩ := Bool.and_eq_true_iff.mp hboth
  obtain ⟨⟨w', books'⟩, hafter', hgone⟩ := (Option.any_eq_true _ _).mp hlater
  have run := Runs.Run.of_after hafter
  have later := Runs.Run.of_after hafter'
  obtain ⟨_, _, hdriven, _, hleft⟩ := (memory_accounted neverBound_unbound run).2 0
  have hall := hdriven (of_decide_eq_true hattached)
  have hgot : Possession.usbDevice ∈ books 0 := by
    rw [hall]
    simp [driven]
  exact ⟨w, books, w', books', run, later, hall,
    hleft w' books' later hgot (of_decide_eq_true hgone)⟩

end RpUsbDisp.Hotplug
