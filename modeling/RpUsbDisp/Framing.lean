/-!
# Cutting a byte stream into marked packets

A transfer is a row of packets.  Every packet starts with a one-symbol mark and
carries up to `m` further symbols, so it is at most `m + 1` long; the next
packet is opened as soon as the current one is full, even if nothing follows.

Three readings of such a stream are connected here.  `stuff` writes it
incrementally, one symbol after the other, keeping only the room left in the
open packet.  `frames` says in closed form what each packet is.  `cut` takes a
finished stream apart again, every `n` symbols.  `cut_stuff` says that they
agree, with a first mark of its own for the first packet.

The last section is the memory such a stream is written to: a fixed block that
is stored to at a position (`writeAt`), failing outside the block.
-/

namespace Framing

variable {β : Type}

/-- The symbols after the mark of the open packet, which has room for `room`
more symbols: a full packet is followed by the mark of the next one. -/
def stuff (mark : β) (m : Nat) : List β → Nat → List β
  | [], _ => []
  | b :: bs, room =>
      if room ≤ 1 then b :: mark :: stuff mark m bs m else b :: stuff mark m bs (room - 1)

/-- The room left after `n` more symbols. -/
def roomAfter (m : Nat) : Nat → Nat → Nat
  | 0, room => room
  | n+1, room => roomAfter m n (if room ≤ 1 then m else room - 1)

/-- Writing can stop anywhere and go on with the room that is left. -/
theorem stuff_append (mark : β) (m : Nat) (xs ys : List β) (room : Nat) :
    stuff mark m (xs ++ ys) room =
      stuff mark m xs room ++ stuff mark m ys (roomAfter m xs.length room) := by
  induction xs generalizing room with
  | nil => rfl
  | cons x xs ih =>
      by_cases h : room ≤ 1
      · simp [stuff, roomAfter, h, ih]
      · simp [stuff, roomAfter, h, ih]

/-- Less than a packet's rest opens no new packet. -/
theorem stuff_short (mark : β) (m : Nat) {ys : List β} {room : Nat} (h : ys.length < room) :
    stuff mark m ys room = ys := by
  induction ys generalizing room with
  | nil => rfl
  | cons y ys ih =>
      have hlen : ys.length + 1 < room := h
      have hroom : ¬ room ≤ 1 := by omega
      have htail : stuff mark m ys (room - 1) = ys := ih (by omega)
      simp [stuff, hroom, htail]

/-- Exactly a packet's rest opens the next packet. -/
theorem stuff_fill (mark : β) (m : Nat) {ys : List β} {room : Nat} (hpos : 0 < room)
    (h : ys.length = room) : stuff mark m ys room = ys ++ [mark] := by
  induction ys generalizing room with
  | nil =>
      have : room = 0 := h.symm
      omega
  | cons y ys ih =>
      have hlen : ys.length + 1 = room := h
      by_cases hroom : room ≤ 1
      · have hys : ys = [] := List.length_eq_zero_iff.mp (by omega)
        simp [stuff, hroom, hys]
      · have htail : stuff mark m ys (room - 1) = ys ++ [mark] := ih (by omega) (by omega)
        simp [stuff, hroom, htail]

/-- The room of an open packet, read off the number of symbols written. -/
theorem roomAfter_eq {m : Nat} (n : Nat) {room : Nat} (hpos : 0 < room) (hle : room ≤ m) :
    roomAfter m n room = m - (m - room + n) % m := by
  induction n generalizing room with
  | zero =>
      rw [roomAfter, Nat.add_zero, Nat.mod_eq_of_lt (by omega)]
      omega
  | succ n ih =>
      rw [roomAfter]
      by_cases h : room ≤ 1
      · rw [if_pos h, ih (by omega) (Nat.le_refl m)]
        have hsum : m - room + (n + 1) = m - m + n + m := by omega
        rw [hsum, Nat.add_mod_right]
      · rw [if_neg h, ih (by omega) (by omega)]
        have hsum : m - (room - 1) + n = m - room + (n + 1) := by omega
        rw [hsum]

/-- From a fresh packet on, the room is what the last packet lacks. -/
theorem roomAfter_fresh {m : Nat} (hm : 0 < m) (n : Nat) : roomAfter m n m = m - n % m := by
  rw [roomAfter_eq n hm (Nat.le_refl m)]
  simp

/-- One mark for every packet filled. -/
theorem stuff_length (mark : β) {m : Nat} (hm : 0 < m) (ys : List β) {room : Nat}
    (hpos : 0 < room) (hle : room ≤ m) :
    (stuff mark m ys room).length = ys.length + (m - room + ys.length) / m := by
  induction ys generalizing room with
  | nil => simp [stuff, Nat.div_eq_of_lt (show m - room < m by omega)]
  | cons y ys ih =>
      by_cases h : room ≤ 1
      · have hsum : m - room + (ys.length + 1) = m - m + ys.length + m := by omega
        simp only [stuff, h, if_true, List.length_cons, ih hm (Nat.le_refl m), hsum,
          Nat.add_div_right _ hm]
        omega
      · have hsum : m - (room - 1) + ys.length = m - room + (ys.length + 1) := by omega
        simp only [stuff, h, if_false, List.length_cons, ih (show 0 < room - 1 by omega)
          (show room - 1 ≤ m by omega), hsum]
        omega

/-- The packets of a transfer: packet `i` carries the `i`-th `m` symbols of the
body, the last one what is left, possibly nothing. -/
def frames (first mark : β) (m : Nat) (body : List β) : List (List β) :=
  (List.range (body.length / m + 1)).map fun i =>
    (if i = 0 then first else mark) :: (body.drop (i * m)).take m

/-- A stream cut every `n` symbols. -/
def cut (n : Nat) (stream : List β) : List (List β) :=
  (List.range ((stream.length + n - 1) / n)).map fun i => (stream.drop (i * n)).take n

@[simp] theorem cut_nil {n : Nat} (hn : 0 < n) : cut n ([] : List β) = [] := by
  have hlen : ([] : List β).length + n - 1 = n - 1 := by simp
  rw [cut, hlen, Nat.div_eq_of_lt (by omega)]
  rfl

/-- The first pieces of a stream. -/
theorem pieces_flatten (n : Nat) (stream : List β) (k : Nat) :
    ((List.range k).map fun i => (stream.drop (i * n)).take n).flatten = stream.take (k * n) := by
  induction k with
  | zero => simp
  | succ k ih =>
      rw [List.range_succ, List.map_append, List.flatten_append, ih, List.map_singleton,
        List.flatten_singleton, Nat.succ_mul, List.take_add]

/-- Nothing is lost by cutting. -/
theorem cut_flatten {n : Nat} (hn : 0 < n) (stream : List β) : (cut n stream).flatten = stream := by
  have hcount : stream.length ≤ (stream.length + n - 1) / n * n := by
    have hdiv := Nat.div_add_mod' (stream.length + n - 1) n
    have hmod := Nat.mod_lt (stream.length + n - 1) hn
    omega
  rw [cut, pieces_flatten, List.take_of_length_le hcount]

/-- A full packet at the head is cut off whole. -/
theorem cut_append {n : Nat} (hn : 0 < n) {p : List β} (hp : p.length = n) (rest : List β) :
    cut n (p ++ rest) = p :: cut n rest := by
  have hcount : ((p ++ rest).length + n - 1) / n = (rest.length + n - 1) / n + 1 := by
    rw [List.length_append, hp, ← Nat.add_div_right _ hn]
    congr 1
    omega
  have hdrop : ∀ i, (p ++ rest).drop ((i + 1) * n) = rest.drop (i * n) := by
    intro i
    rw [Nat.succ_mul, Nat.add_comm, ← List.drop_drop, List.drop_left' hp]
  simp only [cut, hcount, List.range_succ_eq_map, List.map_cons, List.map_map, Function.comp_def,
    hdrop, Nat.zero_mul, List.drop_zero, List.take_left' hp]

/-- Whole packets at the front are cut off on their own. -/
theorem cut_append_whole {n : Nat} (hn : 0 < n) {p : List β} (hp : n ∣ p.length) (rest : List β) :
    cut n (p ++ rest) = cut n p ++ cut n rest := by
  obtain ⟨k, hk⟩ := hp
  induction k generalizing p with
  | zero =>
      obtain rfl := List.length_eq_zero_iff.mp hk
      rw [cut_nil hn]
      rfl
  | succ k ih =>
      rw [Nat.mul_succ] at hk
      have hfirst : (p.take n).length = n := List.length_take_of_le (by omega)
      have hrest : (p.drop n).length = n * k := by
        rw [List.length_drop]
        omega
      calc cut n (p ++ rest)
          = cut n (p.take n ++ (p.drop n ++ rest)) := by
            rw [← List.append_assoc, List.take_append_drop]
        _ = p.take n :: (cut n (p.drop n) ++ cut n rest) := by rw [cut_append hn hfirst, ih hrest]
        _ = cut n (p.take n ++ p.drop n) ++ cut n rest := by
            rw [cut_append hn hfirst, List.cons_append]
        _ = cut n p ++ cut n rest := by rw [List.take_append_drop]

/-- A short rest is one packet. -/
theorem cut_short {n : Nat} {p : List β} (hpos : 0 < p.length) (hle : p.length ≤ n) :
    cut n p = [p] := by
  have hcount : (p.length + n - 1) / n = 1 := by
    have hn : 0 < n := by omega
    rw [show p.length + n - 1 = p.length - 1 + n by omega, Nat.add_div_right _ hn,
      Nat.div_eq_of_lt (by omega)]
  simp only [cut, hcount]
  simp [List.take_of_length_le hle]

/-- Two symbols or more are more than the marks of their pieces. -/
theorem cut_tails_ne_nil {n : Nat} (hn : 2 ≤ n) {p : List β} (hp : 2 ≤ p.length) :
    ((cut n p).map List.tail).flatten ≠ [] := by
  obtain ⟨piece, rest, hcut, hlong⟩ : ∃ piece rest, cut n p = piece :: rest ∧ 2 ≤ piece.length := by
    by_cases hle : p.length ≤ n
    · exact ⟨p, [], cut_short (by omega) hle, hp⟩
    · have htake : (p.take n).length = n := List.length_take_of_le (by omega)
      have hfirst := cut_append (by omega) htake (p.drop n)
      rw [List.take_append_drop] at hfirst
      exact ⟨_, _, hfirst, by omega⟩
  intro hnil
  rw [hcut, List.map_cons, List.flatten_cons] at hnil
  have htail := congrArg List.length (List.append_eq_nil_iff.mp hnil).1
  rw [List.length_tail, List.length_nil] at htail
  omega

/-- A body of less than `m` symbols is one packet. -/
theorem frames_short (first mark : β) {m : Nat} {body : List β} (h : body.length < m) :
    frames first mark m body = [first :: body] := by
  simp [frames, Nat.div_eq_of_lt h, List.take_of_length_le (Nat.le_of_lt h)]

/-- The packets after a full first one are those of the rest of the body. -/
theorem frames_long (first mark : β) {m : Nat} (hm : 0 < m) {body : List β} (h : m ≤ body.length) :
    frames first mark m body = (first :: body.take m) :: frames mark mark m (body.drop m) := by
  have hcount : body.length / m + 1 = (body.drop m).length / m + 1 + 1 := by
    rw [List.length_drop, Nat.div_eq_sub_div hm h]
  have hdrop : ∀ i, (body.drop m).drop (i * m) = body.drop ((i + 1) * m) := by
    intro i
    rw [List.drop_drop, Nat.succ_mul, Nat.add_comm]
  simp only [frames, hcount, List.range_succ_eq_map (n := (body.drop m).length / m + 1),
    List.map_cons, List.map_map, Function.comp_def, hdrop]
  simp

/-- **The three readings agree.**  What `stuff` writes, cut every `m + 1`
symbols, is the packets of the body. -/
theorem cut_stuff (first mark : β) {m : Nat} (hm : 0 < m) (body : List β) :
    cut (m + 1) (first :: stuff mark m body m) = frames first mark m body := by
  induction hlen : body.length using Nat.strongRecOn generalizing first body with
  | ind n ih =>
      by_cases h : body.length < m
      · rw [stuff_short mark m h, frames_short first mark h]
        exact cut_short (by simp) (by simp only [List.length_cons]; omega)
      · have hm' : m ≤ body.length := by omega
        have htake : (body.take m).length = m := List.length_take_of_le hm'
        have hsplit : first :: stuff mark m body m =
            (first :: body.take m) ++ (mark :: stuff mark m (body.drop m) m) := by
          calc first :: stuff mark m body m
              = first :: stuff mark m (body.take m ++ body.drop m) m := by
                rw [List.take_append_drop]
            _ = first :: (stuff mark m (body.take m) m ++ stuff mark m (body.drop m) m) := by
                rw [stuff_append, htake, roomAfter_fresh hm, Nat.mod_self, Nat.sub_zero]
            _ = (first :: body.take m) ++ (mark :: stuff mark m (body.drop m) m) := by
                rw [stuff_fill mark m hm htake]
                simp
        rw [hsplit, cut_append (by omega) (by simp [htake]), frames_long first mark hm hm',
          ih (body.drop m).length (by rw [List.length_drop]; omega) mark (body.drop m) rfl]

/-- The stream is its packets, one after the other. -/
theorem frames_flatten (first mark : β) {m : Nat} (hm : 0 < m) (body : List β) :
    (frames first mark m body).flatten = first :: stuff mark m body m := by
  induction hlen : body.length using Nat.strongRecOn generalizing first body with
  | ind n ih =>
      by_cases h : body.length < m
      · rw [stuff_short mark m h, frames_short first mark h]
        simp
      · have hm' : m ≤ body.length := by omega
        have htake : (body.take m).length = m := List.length_take_of_le hm'
        rw [frames_long first mark hm hm', List.flatten_cons,
          ih (body.drop m).length (by rw [List.length_drop]; omega) mark (body.drop m) rfl]
        conv => rhs; rw [← List.take_append_drop m body]
        rw [stuff_append, htake, roomAfter_fresh hm, Nat.mod_self, Nat.sub_zero,
          stuff_fill mark m hm htake]
        simp

/-- The last symbol has its place in the stream, whatever it is. -/
theorem frames_flatten_concat (first mark : β) {m : Nat} (hm : 0 < m) (body : List β) :
    ∃ before after, ∀ b, (frames first mark m (body ++ [b])).flatten = before ++ b :: after := by
  refine ⟨first :: stuff mark m body m, if roomAfter m body.length m ≤ 1 then [mark] else [], ?_⟩
  intro b
  rw [frames_flatten first mark hm, stuff_append, List.cons_append]
  by_cases h : roomAfter m body.length m ≤ 1
  · simp [stuff, h]
  · simp [stuff, h]

/-- One mark more than there are full packets. -/
theorem frames_flatten_length (first mark : β) {m : Nat} (hm : 0 < m) (body : List β) :
    (frames first mark m body).flatten.length = body.length + 1 + body.length / m := by
  rw [frames_flatten first mark hm, List.length_cons, stuff_length mark hm body hm (Nat.le_refl m),
    Nat.sub_self, Nat.zero_add]
  omega

/-- Dropping the marks leaves the body. -/
theorem frames_payload (first mark : β) {m : Nat} (hm : 0 < m) (body : List β) :
    ((frames first mark m body).map List.tail).flatten = body := by
  induction hlen : body.length using Nat.strongRecOn generalizing first body with
  | ind n ih =>
      by_cases h : body.length < m
      · simp [frames_short first mark h]
      · have hm' : m ≤ body.length := by omega
        rw [frames_long first mark hm hm', List.map_cons, List.flatten_cons,
          ih (body.drop m).length (by rw [List.length_drop]; omega) mark (body.drop m) rfl]
        exact List.take_append_drop m body

section Packets

/-! ## One packet after the other -/

variable {first mark : β} {m : Nat} {body : List β}

/-- What packet `i` carries. -/
theorem frames_getElem? {i : Nat} (hi : i ≤ body.length / m) :
    (frames first mark m body)[i]? =
      some ((if i = 0 then first else mark) :: (body.drop (i * m)).take m) := by
  rw [frames, List.getElem?_map, List.getElem?_range (by omega), Option.map_some]

/-- The packet opened last comes after full ones. -/
theorem frames_concat : frames first mark m body =
    ((List.range (body.length / m)).map fun i =>
      (if i = 0 then first else mark) :: (body.drop (i * m)).take m) ++
    [(if body.length / m = 0 then first else mark) ::
      (body.drop (body.length / m * m)).take m] := by
  rw [frames, List.range_succ, List.map_append, List.map_singleton]

/-- All packets but the last are full. -/
theorem frames_full {i : Nat} (hi : i < body.length / m) : ((body.drop (i * m)).take m).length = m := by
  have hlt : (i + 1) * m ≤ body.length :=
    Nat.le_trans (Nat.mul_le_mul_right m hi) (Nat.div_mul_le_self body.length m)
  rw [Nat.succ_mul] at hlt
  rw [List.length_take, List.length_drop]
  omega

/-- The last packet is not full, so it ends the transfer. -/
theorem frames_last (hm : 0 < m) : (body.drop (body.length / m * m)).length < m := by
  have hmod := Nat.mod_lt body.length hm
  have hdiv := Nat.div_add_mod' body.length m
  rw [List.length_drop]
  omega

/-- The first `i` packets of a transfer. -/
theorem frames_take_length {i : Nat} (hi : i ≤ body.length / m) :
    ((frames first mark m body).take i).flatten.length = i * (m + 1) := by
  induction i with
  | zero => simp
  | succ i ih =>
      rw [List.take_add_one, frames_getElem? (by omega), Option.toList_some, List.flatten_append,
        List.length_append, ih (by omega), List.flatten_singleton, List.length_cons,
        frames_full hi, Nat.succ_mul]

end Packets

section Memory

/-! ## The block a stream is written to -/

/-- Store `bytes` at `pos` of a block; nothing outside the block can be written. -/
def writeAt (block : List β) (pos : Nat) (bytes : List β) : Option (List β) :=
  if pos + bytes.length ≤ block.length then
    some (block.take pos ++ bytes ++ block.drop (pos + bytes.length))
  else none

theorem writeAt_isSome {block bytes : List β} {pos : Nat} (h : pos + bytes.length ≤ block.length) :
    ∃ block', writeAt block pos bytes = some block' := by
  simp [writeAt, h]

theorem writeAt_length {block block' bytes : List β} {pos : Nat}
    (h : writeAt block pos bytes = some block') : block'.length = block.length := by
  unfold writeAt at h
  split at h
  · cases h
    simp
    omega
  · cases h

/-- Up to its end, a store appends to what stands before its position. -/
theorem writeAt_take {block block' bytes : List β} {pos : Nat}
    (h : writeAt block pos bytes = some block') :
    block'.take (pos + bytes.length) = block.take pos ++ bytes := by
  unfold writeAt at h
  split at h
  · rename_i hle
    cases h
    have hpos : (block.take pos).length = pos := by
      rw [List.length_take]
      omega
    have hlen : (block.take pos ++ bytes).length = pos + bytes.length := by
      rw [List.length_append, hpos]
    rw [← hlen, List.take_left]
  · cases h

/-- **Rows of one length**, each stored behind the one before, fill a block that has
room for them and nothing else. -/
theorem writeRows_eq {rows : Nat → List β} {pos : Nat → Nat} {width count : Nat} {block : List β}
    (hlength : ∀ row, (rows row).length = width) (hpos : ∀ row, row < count → pos row = row * width)
    (hblock : block.length = count * width) :
    (List.range count).foldlM (fun block row => writeAt block (pos row) (rows row)) block =
      some ((List.range count).flatMap rows) := by
  have hrows : ∀ n, n ≤ count → ∃ filled,
      (List.range n).foldlM (fun block row => writeAt block (pos row) (rows row)) block =
        some filled ∧
      filled.length = block.length ∧ filled.take (n * width) = (List.range n).flatMap rows := by
    intro n
    induction n with
    | zero =>
        intro _
        refine ⟨block, rfl, rfl, ?_⟩
        rw [Nat.zero_mul]
        rfl
    | succ n ih =>
        intro hn
        obtain ⟨filled, hrun, hfilled, htake⟩ := ih (Nat.le_of_succ_le hn)
        have hend : (n + 1) * width ≤ count * width := Nat.mul_le_mul_right _ hn
        rw [Nat.succ_mul] at hend
        have hroom : n * width + (rows n).length ≤ filled.length := by
          rw [hlength, hfilled, hblock]
          exact hend
        obtain ⟨next, hnext⟩ := writeAt_isSome hroom
        refine ⟨next, ?_, (writeAt_length hnext).trans hfilled, ?_⟩
        · rw [List.range_succ, List.foldlM_append, hrun]
          simp only [Option.bind_eq_bind, Option.bind_some, List.foldlM_cons, List.foldlM_nil,
            hpos n hn, hnext]
          rfl
        · have hstored := writeAt_take hnext
          rw [hlength, htake] at hstored
          rw [Nat.succ_mul, hstored, List.range_succ, List.flatMap_append, List.flatMap_singleton]
  obtain ⟨filled, hrun, hfilled, htake⟩ := hrows count (Nat.le_refl _)
  have hfull : filled.take (count * width) = filled :=
    List.take_of_length_le (Nat.le_of_eq (hfilled.trans hblock))
  rw [hrun, ← htake, hfull]

end Memory

end Framing
