import RpUsbDisp.Reassembly
import RpUsbDisp.WireFormat

/-!
# The display

What `protocol.h` lets a display make of the packets it gets.  A packet begins with the
command; its START bit opens a command and its CLEARDIRTY bit belongs to that one, the other
packets repeat the command and carry on with it.  A command is carried out once its fields
and, for a picture, all its pixels are there.  What follows of it is not looked at, and a
command that is still open when the next one begins is given up.

The display is the receiver of `Reassembly`, with a reader for each of the five commands.
Where every host sends a beginning of one command after the other, the display carries out
those of which enough has arrived (`drawn_begun`).  What the SDK wrote, the readers read
(`reading_body`), so a display carries out its calls in their order (`transfers_drawn`).
-/

namespace RpUsbDisp.Display

open Reassembly RunLength Framing Sdk

/-! ## Commands -/

/-- What a display is told to draw. -/
inductive Drawing where
  | fill (color : Pixel)
  | rect (left top right bottom : UInt16) (color : Pixel) (operation : UInt8)
  | bitblt (x y width height : UInt16) (operation : UInt8) (pixels : List Pixel)
  | copyArea (sx sy dx dy width height : UInt16)
  deriving DecidableEq

/-- A command, and whether it clears the dirty flag. -/
structure Kind where
  command : UInt8
  clearDirty : Bool
  deriving DecidableEq

/-! ## Readers -/

/-- A 16-bit field. -/
def word : Reader UInt8 UInt16 := do
  let lo ← symbol
  let hi ← symbol
  return ofBytes lo hi

/-- `n` pixels as they are. -/
def rawPixels : Nat → Reader UInt8 (List Pixel)
  | 0 => return []
  | n + 1 => do
      let p ← word
      let ps ← rawPixels n
      return p :: ps

/-- A section of compressed pixels. -/
def sectionPixels : Reader UInt8 (List Pixel) := do
  let header ← symbol
  let count := (header &&& 0x7f).toNat + 1
  if header &&& RPUSBDISP_RLE_BLOCKFLAG_COMMON_BIT ≠ 0 then
    let p ← word
    return List.replicate count p
  else rawPixels count

/-- Sections, until there are `need` pixels.  Every section has one at least, so that no more
than `need` of them are to be read. -/
def rlePixels : Nat → Nat → Reader UInt8 (List Pixel)
  | _, 0 => return []
  | 0, _ + 1 => tooFew
  | limit + 1, need + 1 => do
      let ps ← sectionPixels
      if ps.length ≤ need + 1 then
        let qs ← rlePixels limit (need + 1 - ps.length)
        return ps ++ qs
      else tooFew

/-- The pixels of a picture, compressed or as they are. -/
def picturePixels (rle : Bool) (area : Nat) : Reader UInt8 (List Pixel) :=
  if rle then rlePixels area area else rawPixels area

/-- `rpusbdisp_disp_fill_packet_t`, behind its command. -/
def fillReader : Reader UInt8 Drawing := do
  let color ← word
  return .fill color

/-- `rpusbdisp_disp_fillrect_packet_t`. -/
def rectReader : Reader UInt8 Drawing := do
  let left ← word
  let top ← word
  let right ← word
  let bottom ← word
  let color ← word
  let operation ← symbol
  return .rect left top right bottom color operation

/-- `rpusbdisp_disp_copyarea_packet_t`. -/
def copyAreaReader : Reader UInt8 Drawing := do
  let sx ← word
  let sy ← word
  let dx ← word
  let dy ← word
  let width ← word
  let height ← word
  return .copyArea sx sy dx dy width height

/-- `rpusbdisp_disp_bitblt_packet_t`, and the pixels of the picture. -/
def bitbltReader (rle : Bool) : Reader UInt8 Drawing := do
  let x ← word
  let y ← word
  let width ← word
  let height ← word
  let operation ← symbol
  let pixels ← picturePixels rle (width.toNat * height.toNat)
  return .bitblt x y width height operation pixels

/-- The reader of a command; what is none is never carried out. -/
def commandReader (command : UInt8) : Reader UInt8 Drawing :=
  if command = RPUSBDISP_DISPCMD_FILL then fillReader
  else if command = RPUSBDISP_DISPCMD_RECT then rectReader
  else if command = RPUSBDISP_DISPCMD_COPY_AREA then copyAreaReader
  else if command = RPUSBDISP_DISPCMD_BITBLT then bitbltReader false
  else if command = RPUSBDISP_DISPCMD_BITBLT_RLE then bitbltReader true
  else tooFew

section Steady

/-! ## Nothing that follows changes what is read -/

theorem steady_word : Steady word :=
  steady_symbol.bind fun _ => steady_symbol.bind fun _ => .pure _

theorem steady_rawPixels (n : Nat) : Steady (rawPixels n) := by
  induction n with
  | zero => exact .pure _
  | succ n ih => exact steady_word.bind fun _ => ih.bind fun _ => .pure _

theorem steady_sectionPixels : Steady sectionPixels := by
  refine steady_symbol.bind fun header => ?_
  split
  · exact steady_word.bind fun _ => .pure _
  · exact steady_rawPixels _

theorem steady_rlePixels (limit need : Nat) : Steady (rlePixels limit need) := by
  induction limit generalizing need with
  | zero =>
      cases need with
      | zero => exact .pure _
      | succ need => exact steady_tooFew
  | succ limit ih =>
      cases need with
      | zero => exact .pure _
      | succ need =>
          refine steady_sectionPixels.bind fun ps => ?_
          split
          · exact (ih _).bind fun _ => .pure _
          · exact steady_tooFew

theorem steady_picturePixels (rle : Bool) (area : Nat) : Steady (picturePixels rle area) := by
  unfold picturePixels
  split
  · exact steady_rlePixels _ _
  · exact steady_rawPixels _

theorem steady_bitbltReader (rle : Bool) : Steady (bitbltReader rle) :=
  steady_word.bind fun _ => steady_word.bind fun _ => steady_word.bind fun _ =>
    steady_word.bind fun _ => steady_symbol.bind fun _ =>
      (steady_picturePixels rle _).bind fun _ => .pure _

theorem steady_commandReader (command : UInt8) : Steady (commandReader command) := by
  unfold commandReader
  split
  · exact steady_word.bind fun _ => .pure _
  split
  · exact steady_word.bind fun _ => steady_word.bind fun _ => steady_word.bind fun _ =>
      steady_word.bind fun _ => steady_word.bind fun _ => steady_symbol.bind fun _ => .pure _
  split
  · exact steady_word.bind fun _ => steady_word.bind fun _ => steady_word.bind fun _ =>
      steady_word.bind fun _ => steady_word.bind fun _ => steady_word.bind fun _ => .pure _
  split
  · exact steady_bitbltReader false
  split
  · exact steady_bitbltReader true
  · exact steady_tooFew

end Steady

/-! ## The display as a receiver -/

/-- The commands of the display on the wire. -/
def format : Format UInt8 Kind UInt8 Drawing where
  opens mark :=
    if mark &&& RPUSBDISP_CMD_FLAG_START ≠ 0 then
      some ⟨mark &&& 0x3f, mark &&& RPUSBDISP_CMD_FLAG_CLEARDITY ≠ 0⟩
    else none
  continues k mark := mark = k.command
  reader k := commandReader k.command
  steady k := steady_commandReader k.command

/-- A packet as a frame; one of no bytes says nothing. -/
def frameOf : List UInt8 → Option (Frame UInt8 UInt8)
  | [] => none
  | mark :: bytes => some ⟨mark, bytes⟩

/-- What a display carries out of some packets. -/
def drawn (packets : List (List UInt8)) : List (Kind × Drawing) :=
  received format (packets.filterMap frameOf)

section Written

/-! ## What a host wrote is read -/

theorem reads_word (v : UInt16) : Reads word (le16 v) v := by
  have hread : Reads word ([loByte v] ++ ([hiByte v] ++ [])) (ofBytes (loByte v) (hiByte v)) :=
    (reads_symbol _).bind ((reads_symbol _).bind (.pure _))
  rwa [ofBytes_bytes] at hread

theorem reads_rawPixels (ps : List Pixel) : Reads (rawPixels ps.length) (ps.flatMap le16) ps := by
  induction ps with
  | nil => exact .pure _
  | cons p ps ih =>
      have hread := (reads_word p).bind (f := fun p => rawPixels ps.length >>= fun ps => pure (p :: ps))
        (ih.bind (.pure _))
      rwa [List.append_nil] at hread

private theorem read_header : ∀ (isCommon : Bool) (n : Fin 128),
    ((sectionHeader isCommon (n.1 + 1)) &&& 0x7f).toNat = n.1 ∧
      ((sectionHeader isCommon (n.1 + 1)) &&& RPUSBDISP_RLE_BLOCKFLAG_COMMON_BIT ≠ 0 ↔
        isCommon = true) := by decide

/-- A section is read as the wire shows it. -/
theorem reads_sectionPixels (host : HostOrder) {s : Section Pixel} (hs : s.WellFormed 128) :
    Reads sectionPixels (sectionBytes host s) (s.symbols.map (cpuToLe16 host)) := by
  obtain ⟨hpos, hle⟩ := hs
  obtain ⟨n, hn⟩ := exists_fin hpos hle
  cases s with
  | literal ps =>
      have hlen : ps.length = n.1 + 1 := hn
      obtain ⟨hcount, hcommon⟩ := read_header false n
      have hpixels := reads_rawPixels (ps.map (cpuToLe16 host))
      rw [List.length_map, hlen, ← flatMap_store16] at hpixels
      refine (reads_symbol (sectionHeader false ps.length)).bind ?_
      rw [hlen, if_neg (fun h => Bool.false_ne_true (hcommon.mp h)), hcount]
      exact hpixels
  | common p count =>
      have hlen : count = n.1 + 1 := hn
      obtain ⟨hcount, hcommon⟩ := read_header true n
      have hpixel := (reads_word (cpuToLe16 host p)).map (List.replicate (n.1 + 1))
      rw [← store16_eq, ← List.map_replicate] at hpixel
      refine (reads_symbol (sectionHeader true count)).bind ?_
      rw [hlen, if_pos (hcommon.mpr rfl), hcount]
      exact hpixel

/-- Sections are read as the wire shows them. -/
theorem reads_rlePixels (host : HostOrder) {ss : List (Section Pixel)}
    (hss : ∀ s ∈ ss, s.WellFormed 128) {limit : Nat} (hlimit : (expand ss).length ≤ limit) :
    Reads (rlePixels limit (expand ss).length) (ss.flatMap (sectionBytes host))
      ((expand ss).map (cpuToLe16 host)) := by
  induction ss generalizing limit with
  | nil =>
      show Reads (rlePixels limit 0) [] []
      cases limit with
      | zero => exact .pure _
      | succ limit => exact .pure _
  | cons s ss ih =>
      have hs := hss s List.mem_cons_self
      have hpos : 1 ≤ s.symbols.length := s.symbols_length ▸ hs.1
      have hexpand : expand (s :: ss) = s.symbols ++ expand ss := rfl
      have hlen : (expand (s :: ss)).length = s.symbols.length + (expand ss).length := by
        rw [hexpand, List.length_append]
      obtain ⟨limit, rfl⟩ : ∃ l, limit = l + 1 := ⟨limit - 1, by omega⟩
      obtain ⟨need, hneed⟩ : ∃ n, (expand (s :: ss)).length = n + 1 :=
        ⟨(expand (s :: ss)).length - 1, by omega⟩
      have hroom : (expand ss).length ≤ limit := by omega
      have htail := ih (fun t ht => hss t (List.mem_cons_of_mem s ht)) hroom
      rw [hneed, List.flatMap_cons, hexpand, List.map_append]
      refine (reads_sectionPixels host hs).bind ?_
      rw [List.length_map, if_pos (by omega)]
      have hrest : need + 1 - s.symbols.length = (expand ss).length := by omega
      rw [hrest]
      exact htail.map (s.symbols.map (cpuToLe16 host) ++ ·)

/-- A picture is read as the wire shows it, compressed or not. -/
theorem reads_picturePixels (host : HostOrder) (rle : Bool) {pixels : List Pixel} {area : Nat}
    (harea : pixels.length = area) :
    Reads (picturePixels rle area)
      (if rle then (encode 128 reopenCommon pixels).flatMap (sectionBytes host)
        else pixels.flatMap (store16 host))
      (pixels.map (cpuToLe16 host)) := by
  subst harea
  cases rle with
  | true =>
      have hwell := encode_wellFormed (show 3 ≤ 128 by decide) reopenCommon_reopens pixels
      have hexpand := expand_encode (show 3 ≤ 128 by decide) reopenCommon_reopens pixels
      have hroom : (expand (encode 128 reopenCommon pixels)).length ≤ pixels.length := by rw [hexpand]
      have hread := reads_rlePixels host hwell hroom
      rwa [hexpand] at hread
  | false =>
      have hread := reads_rawPixels (pixels.map (cpuToLe16 host))
      rwa [List.length_map, ← flatMap_store16] at hread

theorem reads_fill (color : Pixel) : Reads fillReader (le16 color) (.fill color) :=
  (reads_word color).map Drawing.fill

theorem reads_rect (left top right bottom color : UInt16) (operation : UInt8) :
    Reads rectReader ([left, top, right, bottom, color].flatMap le16 ++ [operation])
      (.rect left top right bottom color operation) :=
  (reads_word left).bind <| (reads_word top).bind <| (reads_word right).bind <|
    (reads_word bottom).bind <| (reads_word color).bind <| (reads_symbol operation).map _

theorem reads_copyArea (sx sy dx dy width height : UInt16) :
    Reads copyAreaReader ([sx, sy, dx, dy, width, height].flatMap le16)
      (.copyArea sx sy dx dy width height) :=
  (reads_word sx).bind <| (reads_word sy).bind <| (reads_word dx).bind <|
    (reads_word dy).bind <| (reads_word width).bind <| (reads_word height).map _

theorem reads_bitblt {rle : Bool} {x y width height : UInt16} {operation : UInt8}
    {payload : List UInt8} {pixels : List Pixel}
    (hpixels : Reads (picturePixels rle (width.toNat * height.toNat)) payload pixels) :
    Reads (bitbltReader rle) ([x, y, width, height].flatMap le16 ++ operation :: payload)
      (.bitblt x y width height operation pixels) :=
  (reads_word x).bind <| (reads_word y).bind <| (reads_word width).bind <|
    (reads_word height).bind <| (reads_symbol operation).bind <| hpixels.map _

end Written

section Packets

/-! ## The packets of a command -/

/-- One of the five commands. -/
def IsCommand (command : UInt8) : Prop :=
  command = RPUSBDISP_DISPCMD_FILL ∨ command = RPUSBDISP_DISPCMD_RECT ∨
    command = RPUSBDISP_DISPCMD_COPY_AREA ∨ command = RPUSBDISP_DISPCMD_BITBLT ∨
      command = RPUSBDISP_DISPCMD_BITBLT_RLE

/-- The first packet of a command opens it, and says whether the dirty flag is cleared. -/
theorem opens_first {command : UInt8} (h : IsCommand command) (displayStatus : UInt8) :
    format.opens (firstCommand displayStatus command) =
      some ⟨command, displayStatus &&& RPUSBDISP_DISPLAY_STATUS_DIRTY_FLAG ≠ 0⟩ := by
  unfold firstCommand
  by_cases hdirty : displayStatus &&& RPUSBDISP_DISPLAY_STATUS_DIRTY_FLAG ≠ 0
  · rw [if_pos hdirty, decide_eq_true hdirty]
    rcases h with rfl | rfl | rfl | rfl | rfl <;> rfl
  · rw [if_neg hdirty, decide_eq_false hdirty]
    rcases h with rfl | rfl | rfl | rfl | rfl <;> rfl

/-- The packets after it open nothing. -/
theorem opens_mark {command : UInt8} (h : IsCommand command) : format.opens command = none := by
  rcases h with rfl | rfl | rfl | rfl | rfl <;> rfl

/-- The first packet of a command, and the packets that repeat the command. -/
def Marked (first command : UInt8) (packets : List (List UInt8)) : Prop :=
  ∃ bytes rest, packets = (first :: bytes) :: rest ∧ ∀ p ∈ rest, p.head? = some command

theorem marked_of_packetised {n : Nat} {first command : UInt8} {body stream : List UInt8}
    (h : Packetised n first command body stream) : Marked first command (cut n stream) := by
  have hmarks := h.commands
  cases hpackets : cut n stream with
  | nil =>
      obtain ⟨packet, hlast, _⟩ := h.short
      rw [hpackets] at hlast
      cases hlast
  | cons p rest =>
      rw [hpackets] at hmarks
      have hfirst : p.head? = some first := hmarks 0 p rfl
      obtain ⟨bytes, rfl⟩ := List.head?_eq_some_iff.mp hfirst
      refine ⟨bytes, rest, rfl, fun q hq => ?_⟩
      obtain ⟨i, hi⟩ := List.mem_iff_getElem?.mp hq
      exact hmarks (i + 1) q hi

/-- The first packets are marked like all of them. -/
theorem Marked.take {first command : UInt8} {packets : List (List UInt8)}
    (h : Marked first command packets) {k : Nat} (hk : 0 < k) :
    Marked first command (packets.take k) := by
  obtain ⟨bytes, rest, rfl, hrest⟩ := h
  obtain ⟨k, rfl⟩ : ∃ j, k = j + 1 := ⟨k - 1, by omega⟩
  exact ⟨bytes, rest.take k, rfl, fun p hp => hrest p (List.mem_of_mem_take hp)⟩

/-- What marked packets are as frames. -/
theorem Marked.frames {first command : UInt8} {packets : List (List UInt8)}
    (h : Marked first command packets) :
    ∃ f rest, packets.filterMap frameOf = f :: rest ∧ f.mark = first ∧
      (∀ g ∈ rest, g.mark = command) ∧
      symbolsOf (packets.filterMap frameOf) = (packets.map List.tail).flatten := by
  obtain ⟨bytes, rest, rfl, hrest⟩ := h
  have hframes : rest.filterMap frameOf = rest.map fun p => ⟨command, p.tail⟩ := by
    rw [← List.filterMap_eq_map]
    apply List.filterMap_congr
    intro p hp
    obtain ⟨tail, rfl⟩ := List.head?_eq_some_iff.mp (hrest p hp)
    rfl
  refine ⟨⟨first, bytes⟩, rest.filterMap frameOf, rfl, rfl, ?_, ?_⟩
  · intro g hg
    rw [hframes] at hg
    obtain ⟨p, _, rfl⟩ := List.mem_map.mp hg
    rfl
  · show bytes ++ symbolsOf (rest.filterMap frameOf) = bytes ++ (rest.map List.tail).flatten
    rw [hframes, symbolsOf, List.flatMap_map, List.flatMap_def]

/-- Marked packets are the frames of one message. -/
theorem Marked.bundle {kind : Kind} {first : UInt8} {packets : List (List UInt8)}
    (hcommand : IsCommand kind.command) (hopens : format.opens first = some kind)
    (h : Marked first kind.command packets) : Bundle format kind (packets.filterMap frameOf) := by
  obtain ⟨f, rest, hframes, hfirst, hmarks, _⟩ := h.frames
  constructor
  · exact ⟨f, rest, hframes, by rw [hfirst, hopens]⟩
  · rw [hframes]
    intro g hg
    have hmark := hmarks g hg
    exact ⟨by rw [hmark, opens_mark hcommand], decide_eq_true hmark⟩

/-- Packets that begin a command: with something more behind them they would be the drawing. -/
structure Begins (drawing : Kind × Drawing) (packets : List (List UInt8)) : Prop where
  isCommand : IsCommand drawing.1.command
  marked : ∃ first, format.opens first = some drawing.1 ∧ Marked first drawing.1.command packets
  goesOn : ∃ rest, reading (commandReader drawing.1.command)
    ((packets.map List.tail).flatten ++ rest) = some drawing.2

/-- There is enough in some packets to carry the command out. -/
def Enough (drawing : Kind × Drawing) (packets : List (List UInt8)) : Prop :=
  (reading (commandReader drawing.1.command) (packets.map List.tail).flatten).isSome

instance (drawing : Kind × Drawing) (packets : List (List UInt8)) :
    Decidable (Enough drawing packets) := by
  unfold Enough
  infer_instance

/-- The first packets of a command begin it. -/
theorem begins_of_start {drawing : Kind × Drawing} {first : UInt8}
    {packets all : List (List UInt8)} (hcommand : IsCommand drawing.1.command)
    (hopens : format.opens first = some drawing.1) (hmarked : Marked first drawing.1.command all)
    (hread : reading (commandReader drawing.1.command) (all.map List.tail).flatten = some drawing.2)
    (hstart : packets <+: all) (hne : packets ≠ []) : Begins drawing packets where
  isCommand := hcommand
  marked := by
    refine ⟨first, hopens, ?_⟩
    rw [List.prefix_iff_eq_take.mp hstart]
    exact hmarked.take (List.length_pos_iff.mpr hne)
  goesOn := by
    obtain ⟨rest, hall⟩ := hstart
    refine ⟨(rest.map List.tail).flatten, ?_⟩
    rw [← List.flatten_append, ← List.map_append, hall, hread]

/-- All of them are enough. -/
theorem enough_of_reading {drawing : Kind × Drawing} {packets : List (List UInt8)}
    (hread : reading (commandReader drawing.1.command) (packets.map List.tail).flatten =
      some drawing.2) : Enough drawing packets := by
  unfold Enough
  rw [hread]
  rfl

/-- What is made of a beginning is the command, or nothing. -/
theorem Begins.delivered {drawing : Kind × Drawing} {packets : List (List UInt8)}
    (h : Begins drawing packets) :
    delivered format drawing.1 (packets.map List.tail).flatten =
      if Enough drawing packets then [drawing] else [] := by
  obtain ⟨rest, hwhole⟩ := h.goesOn
  have hreader : format.reader drawing.1 = commandReader drawing.1.command := rfl
  rw [Reassembly.delivered, hreader]
  by_cases henough : Enough drawing packets
  · obtain ⟨a, hread⟩ := Option.isSome_iff_exists.mp henough
    -- what follows does not change what is read, and in the end it is the drawing
    rw [(steady_commandReader _).reading hread rest] at hwhole
    rw [if_pos henough, hread, Option.some.inj hwhole]
    rfl
  · rw [if_neg henough, Option.not_isSome_iff_eq_none.mp henough]
    rfl

/-- No command is carried out on nothing. -/
theorem reading_nil (command : UInt8) : reading (commandReader command) [] = none := by
  unfold commandReader
  split
  · rfl
  split
  · rfl
  split
  · rfl
  split
  · rfl
  split
  · rfl
  · rfl

theorem not_enough_nil (drawing : Kind × Drawing) : ¬ Enough drawing [] := by
  intro henough
  have hnone : (reading (commandReader drawing.1.command) []).isSome := henough
  rw [reading_nil] at hnone
  exact Bool.false_ne_true hnone

/-- **Beginnings of commands**, one after the other, and some not even begun: the display carries
out those of which enough has arrived, each once and in their order. -/
theorem drawn_begun {messages : List ((Kind × Drawing) × List (List UInt8))}
    (h : ∀ m ∈ messages, m.2 = [] ∨ Begins m.1 m.2) :
    drawn (messages.flatMap Prod.snd) =
      messages.flatMap fun m => if Enough m.1 m.2 then [m.1] else [] := by
  have hnothing : ∀ d : Kind × Drawing, Reassembly.delivered format d.1 [] = [] := by
    intro d
    show ((reading (commandReader d.1.command) []).map _).toList = []
    rw [reading_nil]
    rfl
  have hbundle : ∀ b ∈ messages.map fun m => (m.1.1, m.2.filterMap frameOf),
      Bundle format b.1 b.2 ∨ b.2 = [] ∧ Reassembly.delivered format b.1 [] = [] := by
    intro b hb
    obtain ⟨m, hm, rfl⟩ := List.mem_map.mp hb
    rcases h m hm with hnone | hbegins
    · exact Or.inr ⟨by rw [hnone]; rfl, hnothing m.1⟩
    · obtain ⟨first, hopens, hmarked⟩ := hbegins.marked
      exact Or.inl (hmarked.bundle hbegins.isCommand hopens)
  have hbundles := receiveAll_bundles hbundle none
  rw [List.flatMap_map, List.flatMap_map, ← List.filterMap_flatMap] at hbundles
  rw [drawn, received, hbundles]
  apply List.flatMap_congr
  intro m hm
  rcases h m hm with hnone | hbegins
  · rw [hnone, if_neg (not_enough_nil m.1)]
    exact hnothing m.1
  · obtain ⟨_, _, hmarked⟩ := hbegins.marked
    obtain ⟨_, _, _, _, _, hsymbols⟩ := hmarked.frames
    rw [hsymbols, hbegins.delivered]

end Packets

section Calls

/-! ## The calls of the SDK -/

variable (host : HostOrder) (firmwareVersion : UInt16)

/-- What a call draws.  The colour of a rectangle and the pixels of a bitblt are not converted, so
on a big-endian host they are the ones the wire shows. -/
def drawingOf : DisplayCall → Drawing
  | .fill color =>
      if firmwareVersion < RP_USB_DISPLAY_MIN_VERSION_FILL then
        .rect 0 0 319 239 (cpuToLe16 host color) RPUSBDISP_OPERATION_COPY
      else .fill color
  | .fillrect left top right bottom color bitOperation =>
      .rect left top right bottom (cpuToLe16 host color) bitOperation
  | .bitblt x y width height bitOperation image _ =>
      .bitblt x y width height bitOperation
        ((image.take (width.toNat * height.toNat)).map (cpuToLe16 host))
  | .copyArea srcX srcY destX destY width height => .copyArea srcX srcY destX destY width height

theorem isCommand_call (call : DisplayCall) : IsCommand (call.command firmwareVersion) := by
  cases call with
  | fill color =>
      by_cases hold : firmwareVersion < RP_USB_DISPLAY_MIN_VERSION_FILL
      · exact Or.inr (Or.inl (if_pos hold))
      · exact Or.inl (if_neg hold)
  | fillrect => exact Or.inr (Or.inl rfl)
  | bitblt =>
      by_cases hrle : compresses firmwareVersion = true
      · exact Or.inr (Or.inr (Or.inr (Or.inr (if_pos hrle))))
      · exact Or.inr (Or.inr (Or.inr (Or.inl (if_neg hrle))))
  | copyArea => exact Or.inr (Or.inr (Or.inl rfl))

/-- A rectangle as a host writes it. -/
theorem reads_fillrectStruct (left top right bottom color : UInt16) (bitOperation : UInt8) :
    Reads rectReader (fillrectStruct host left top right bottom color bitOperation).fields
      (.rect left top right bottom (cpuToLe16 host color) bitOperation) := by
  rw [DisplayCall.fillrectStruct_fields, store16_eq]
  exact reads_rect left top right bottom (cpuToLe16 host color) bitOperation

/-- A picture as a host writes it. -/
theorem reads_bitbltCall (x y width height : UInt16) (bitOperation : UInt8) (image : List Pixel)
    (enough : width.toNat * height.toNat ≤ image.length) (padding : UInt8) :
    Reads (bitbltReader (compresses firmwareVersion))
      ((DisplayCall.bitblt x y width height bitOperation image enough).body host firmwareVersion padding)
      (drawingOf host firmwareVersion (.bitblt x y width height bitOperation image enough)) := by
  have hpixels := reads_picturePixels host (compresses firmwareVersion)
    (List.length_take_of_le enough)
  rw [DisplayCall.body, DisplayCall.struct, DisplayCall.bitbltStruct_wire, List.append_assoc]
  exact reads_bitblt hpixels

/-- **What a call sends is what it draws.** -/
theorem reading_body (call : DisplayCall) (padding : UInt8) :
    reading (commandReader (call.command firmwareVersion)) (call.body host firmwareVersion padding) =
      some (drawingOf host firmwareVersion call) := by
  cases call with
  | fill color =>
      by_cases hold : firmwareVersion < RP_USB_DISPLAY_MIN_VERSION_FILL
      · simp only [DisplayCall.command, DisplayCall.body, DisplayCall.struct, DisplayCall.payload,
          drawingOf, if_pos hold]
        exact (reads_fillrectStruct host 0 0 319 239 color RPUSBDISP_OPERATION_COPY).reading []
      · simp only [DisplayCall.command, DisplayCall.body, DisplayCall.struct, DisplayCall.payload,
          drawingOf, if_neg hold, DisplayCall.fillStruct_fields]
        exact (reads_fill color).reading []
  | fillrect left top right bottom color bitOperation =>
      exact (reads_fillrectStruct host left top right bottom color bitOperation).reading []
  | bitblt x y width height bitOperation image enough =>
      have hread := (reads_bitbltCall host firmwareVersion x y width height bitOperation image enough
        padding).reading []
      rw [List.append_nil] at hread
      rw [DisplayCall.command]
      cases hrle : compresses firmwareVersion with
      | true =>
          rw [hrle] at hread
          exact hread
      | false =>
          rw [hrle] at hread
          exact hread
  | copyArea srcX srcY destX destY width height =>
      rw [DisplayCall.body, DisplayCall.struct, DisplayCall.copyAreaStruct_fields]
      exact (reads_copyArea srcX srcY destX destY width height).reading _

/-- A call that came to a transfer of which every byte was written. -/
structure Transfer (maxPacketSize : CInt) where
  env : Environment
  call : DisplayCall
  stream : List UInt8
  length : Int
  run_eq : call.run env host maxPacketSize firmwareVersion = .ok ⟨stream.map some, length⟩

namespace Transfer

variable {host firmwareVersion} {maxPacketSize : CInt}

/-- Its packets. -/
def packets (t : Transfer host firmwareVersion maxPacketSize) : List (List UInt8) :=
  cut (packetSize maxPacketSize) t.stream

/-- The command the display is to carry out. -/
def drawing (t : Transfer host firmwareVersion maxPacketSize) : Kind × Drawing :=
  (⟨t.call.command firmwareVersion,
    t.env.displayStatus &&& RPUSBDISP_DISPLAY_STATUS_DIRTY_FLAG ≠ 0⟩,
    drawingOf host firmwareVersion t.call)

variable (t : Transfer host firmwareVersion maxPacketSize)

theorem packetised : Packetised (packetSize maxPacketSize)
    (firstCommand t.env.displayStatus (t.call.command firmwareVersion))
    (t.call.command firmwareVersion) (t.call.body host firmwareVersion (t.env.garbage 0)) t.stream :=
  (DisplayCall.run_written t.run_eq).1

/-- Its packets are read as what it draws. -/
theorem reading_packets : reading (commandReader t.drawing.1.command)
    (t.packets.map List.tail).flatten = some t.drawing.2 := by
  rw [packets, t.packetised.body_eq]
  exact reading_body host firmwareVersion t.call (t.env.garbage 0)

/-- Its first packets begin the command. -/
theorem begins_take {k : Nat} (hk : 0 < k) : Begins t.drawing (t.packets.take k) := by
  have hmarked := marked_of_packetised t.packetised
  have hne : t.packets.take k ≠ [] := by
    obtain ⟨bytes, rest, htaken, _⟩ := hmarked.take hk
    rw [packets, htaken]
    exact List.cons_ne_nil _ _
  exact begins_of_start (isCommand_call firmwareVersion t.call)
    (opens_first (isCommand_call firmwareVersion t.call) t.env.displayStatus) hmarked
    t.reading_packets (List.take_prefix k _) hne

/-- All packets are enough. -/
theorem enough_all {k : Nat} (hk : t.packets.length ≤ k) : Enough t.drawing (t.packets.take k) := by
  rw [List.take_of_length_le hk]
  exact enough_of_reading t.reading_packets

end Transfer

/-- **The calls of the SDK reach the display.**  Transfers follow each other, and of each of them
some packets arrive, the first one at least.  The display carries out the commands of which
enough has arrived, each once and in the order of the calls, as `drawingOf` has them;
a transfer that breaks off leaves nothing else behind, and one that is complete is carried out. -/
theorem transfers_drawn {maxPacketSize : CInt}
    (sends : List (Transfer host firmwareVersion maxPacketSize × Nat)) (harrive : ∀ s ∈ sends, 0 < s.2) :
    drawn (sends.flatMap fun s => s.1.packets.take s.2) =
        sends.flatMap (fun s => if Enough s.1.drawing (s.1.packets.take s.2) then [s.1.drawing]
          else []) ∧
      ∀ s ∈ sends, s.1.packets.length ≤ s.2 → Enough s.1.drawing (s.1.packets.take s.2) := by
  refine ⟨?_, fun s _ hk => s.1.enough_all hk⟩
  have hbegun : ∀ m ∈ sends.map fun s => (s.1.drawing, s.1.packets.take s.2),
      m.2 = [] ∨ Begins m.1 m.2 := by
    intro m hm
    obtain ⟨s, hs, rfl⟩ := List.mem_map.mp hm
    exact Or.inr (s.1.begins_take (harrive s hs))
  have hdrawn := drawn_begun hbegun
  rwa [List.flatMap_map, List.flatMap_map] at hdrawn

/-- Packets of ten bytes, so that a rectangle takes two. -/
def tinyPackets : CInt := ⟨10, by decide⟩

/-- A rectangle on its way. -/
def tinyRectangle (color : Pixel) (stream : List UInt8)
    (hbuffer : transferBuffer 0x80 tinyPackets (fillrectStruct .little 1 2 3 4 color 0) noPayload =
      stream.map some) (hlength : stream.length = 13) : Transfer .little 0x0104 tinyPackets where
  env := .generous
  call := .fillrect 1 2 3 4 color 0
  stream := stream
  length := 13
  run_eq := by
    have hbody : (commandBody (fillrectStruct .little 1 2 3 4 color 0) (some noPayload)).length <
        2 ^ 62 := (@DisplayCall.commandBody_eq (.fillrect 1 2 3 4 color 0) .generous .little 0x0104
          none rfl).2
    have hgranted : Environment.generous.grants
        ((commandBody (fillrectStruct .little 1 2 3 4 color 0) (some noPayload)).length + 1) 13 =
          true := Environment.generous_willing.grants (by omega) (by decide)
    have hstatus : Environment.generous.displayStatus = 0x80 := rfl
    show sendCommandWithInt .generous tinyPackets _ noPayload = _
    rw [sendCommandWithInt_eq .generous (by decide) (by decide) hbody, hstatus, hbuffer,
      List.length_map, hlength, if_pos hgranted]
    rfl

/-- Of the first rectangle only one packet arrives. -/
theorem transfers_drawn_two :
    drawn [[0xC3, 1, 0, 2, 0, 3, 0, 4, 0, 7], [0xC3, 1, 0, 2, 0, 3, 0, 4, 0, 0], [3, 0xF8, 0]] =
      [(⟨3, true⟩, .rect 1 2 3 4 0xF800 0)] := by
  let broken := tinyRectangle 7 [0xC3, 1, 0, 2, 0, 3, 0, 4, 0, 7, 3, 0, 0] (by decide) rfl
  let whole := tinyRectangle 0xF800 [0xC3, 1, 0, 2, 0, 3, 0, 4, 0, 0, 3, 0xF8, 0] (by decide) rfl
  have hdrawn := (transfers_drawn .little 0x0104 [(broken, 1), (whole, 2)] (by decide)).1
  have hpackets : ([(broken, 1), (whole, 2)].flatMap fun s => s.1.packets.take s.2) =
      [[0xC3, 1, 0, 2, 0, 3, 0, 4, 0, 7], [0xC3, 1, 0, 2, 0, 3, 0, 4, 0, 0], [3, 0xF8, 0]] := by
    decide
  have hbroken : ¬ Enough broken.drawing (broken.packets.take 1) := by decide
  have hwhole : Enough whole.drawing (whole.packets.take 2) := by decide
  rw [hpackets] at hdrawn
  rw [hdrawn]
  simp only [List.flatMap_cons, List.flatMap_nil, if_neg hbroken, if_pos hwhole]
  decide

end Calls

end RpUsbDisp.Display
