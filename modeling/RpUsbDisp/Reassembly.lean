import Mathlib.Data.List.Basic

/-!
# Messages in marked frames

A sender cuts every message into frames.  A frame is a mark and some symbols; the mark of
the first one opens the message, the marks of the others go on with it.  The receiver has
nothing but the frames.  It collects the symbols of the message that is open, and reads it
as soon as there are enough of them.

How a message is read is a *reader*, which takes symbols from the front of what is there
and may find too few.  `Reads` says that a reader takes exactly what was written, and
`Steady` that it never changes its mind when more arrives.  Both are kept when readers
are put one after the other.

`receiveAll_bundles` is what a receiver makes of many messages, of which some may be cut
short: it hands on those of which enough has arrived, each once and in their order, and a
message that is cut short spoils no other.
-/

namespace Reassembly

universe u v

section Readers

/-! ## Readers -/

/-- What takes symbols from the front, unless there are too few. -/
abbrev Reader (β : Type u) := StateT (List β) Option

variable {β α γ : Type u}

/-- The reader takes exactly `bytes`, whatever follows, and makes `a` of it. -/
def Reads (p : Reader β α) (bytes : List β) (a : α) : Prop :=
  ∀ rest, p.run (bytes ++ rest) = some (a, rest)

/-- What the reader has taken, it takes when more symbols follow, too. -/
def Steady (p : Reader β α) : Prop :=
  ∀ xs a rest, p.run xs = some (a, rest) → ∀ ys, p.run (xs ++ ys) = some (a, rest ++ ys)

/-- There are too few symbols, or something that cannot be read. -/
def tooFew : Reader β α := fun _ => none

/-- One symbol. -/
def symbol : Reader β β := fun xs =>
  match xs with
  | [] => none
  | x :: rest => some (x, rest)

/-- One after the other. -/
theorem Reads.bind {p : Reader β α} {f : α → Reader β γ} {xs ys : List β} {a : α} {c : γ}
    (hp : Reads p xs a) (hf : Reads (f a) ys c) : Reads (p >>= f) (xs ++ ys) c := by
  intro rest
  rw [StateT.run_bind, List.append_assoc, hp (ys ++ rest)]
  exact hf rest

theorem Reads.pure (a : α) : Reads (Pure.pure a : Reader β α) [] a :=
  fun _ => rfl

/-- A value is made of what was read. -/
theorem Reads.map {p : Reader β α} {xs : List β} {a : α} (hp : Reads p xs a) (f : α → γ) :
    Reads (f <$> p) xs (f a) := by
  intro rest
  rw [StateT.run_map, hp rest]
  rfl

theorem reads_symbol (x : β) : Reads symbol [x] x :=
  fun _ => rfl

/-- What was written alone is read to its end. -/
theorem Reads.all {p : Reader β α} {xs : List β} {a : α} (hp : Reads p xs a) :
    p.run xs = some (a, []) := by
  have hrun := hp []
  rwa [List.append_nil] at hrun

theorem Steady.bind {p : Reader β α} {f : α → Reader β γ} (hp : Steady p)
    (hf : ∀ a, Steady (f a)) : Steady (p >>= f) := by
  intro xs c rest hrun ys
  rw [StateT.run_bind] at hrun ⊢
  obtain ⟨⟨a, middle⟩, hfirst, hsecond⟩ := Option.bind_eq_some_iff.mp hrun
  rw [hp xs a middle hfirst ys]
  exact hf a middle c rest hsecond ys

theorem Steady.pure (a : α) : Steady (Pure.pure a : Reader β α) := by
  intro xs b rest hrun ys
  cases hrun
  rfl

theorem Steady.map {p : Reader β α} (hp : Steady p) (f : α → γ) : Steady (f <$> p) := by
  rw [map_eq_pure_bind]
  exact hp.bind fun a => Steady.pure (f a)

theorem steady_tooFew : Steady (tooFew : Reader β α) := by
  intro xs a rest hrun
  cases hrun

theorem steady_symbol : Steady (symbol : Reader β β) := by
  intro xs a rest hrun ys
  cases xs with
  | nil => cases hrun
  | cons x xs =>
      cases hrun
      rfl

/-- What is read from the front of some symbols, if there are enough of them. -/
def reading (p : Reader β α) (xs : List β) : Option α :=
  (p.run xs).map Prod.fst

theorem Reads.reading {p : Reader β α} {xs : List β} {a : α} (hp : Reads p xs a) (rest : List β) :
    reading p (xs ++ rest) = some a := by
  rw [Reassembly.reading, hp rest]
  rfl

theorem Steady.reading {p : Reader β α} (hp : Steady p) {xs : List β} {a : α}
    (h : reading p xs = some a) (ys : List β) : reading p (xs ++ ys) = some a := by
  obtain ⟨⟨b, rest⟩, hrun, rfl⟩ := Option.map_eq_some_iff.mp h
  rw [Reassembly.reading, hp xs b rest hrun ys]
  rfl

/-- What is read ends no earlier than with its last symbol. -/
theorem Reads.early {p : Reader β α} {xs ys : List β} {a : α} (hp : Reads p (xs ++ ys) a)
    (hsteady : Steady p) (hys : ys ≠ []) : Reassembly.reading p xs = none := by
  cases hrun : p.run xs with
  | none =>
      rw [Reassembly.reading, hrun]
      rfl
  | some read =>
      have hmore := hsteady xs read.1 read.2 hrun ys
      have hall := hp []
      rw [List.append_nil, hmore] at hall
      have hrest : read.2 ++ ys = [] := congrArg Prod.snd (Option.some.inj hall)
      exact absurd (List.append_eq_nil_iff.mp hrest).2 hys

end Readers

section Receiver

/-! ## The receiver -/

variable {μ : Type v} {κ β α : Type u}

/-- How messages are told apart and read: which marks open a message, and of what kind,
which marks go on with it, and what is read of it. -/
structure Format (μ : Type v) (κ β α : Type u) where
  opens : μ → Option κ
  continues : κ → μ → Bool
  reader : κ → Reader β α
  steady : ∀ k, Steady (reader k)

/-- A mark and the symbols behind it. -/
structure Frame (μ : Type v) (β : Type u) where
  mark : μ
  symbols : List β

variable (fmt : Format μ κ β α)

/-- What is collected once a frame has arrived: a frame that opens no message and goes on with
none is dropped, and a message that is still open when the next one begins is given up. -/
def collect (held : Option (κ × List β)) (f : Frame μ β) : Option (κ × List β) :=
  match fmt.opens f.mark with
  | some k => some (k, f.symbols)
  | none =>
      match held with
      | some (k, xs) => if fmt.continues k f.mark then some (k, xs ++ f.symbols) else none
      | none => none

/-- Read what is collected: there is enough of it, or it is kept. -/
def settle : Option (κ × List β) → Option (κ × List β) × List (κ × α)
  | none => (none, [])
  | some (k, xs) =>
      match reading (fmt.reader k) xs with
      | some a => (none, [(k, a)])
      | none => (some (k, xs), [])

/-- A frame arrives. -/
def receive (held : Option (κ × List β)) (f : Frame μ β) : Option (κ × List β) × List (κ × α) :=
  settle fmt (collect fmt held f)

/-- Many frames arrive. -/
def receiveAll (held : Option (κ × List β)) : List (Frame μ β) → Option (κ × List β) × List (κ × α)
  | [] => (held, [])
  | f :: fs =>
      let r := receive fmt held f
      let rest := receiveAll r.1 fs
      (rest.1, r.2 ++ rest.2)

/-- What a receiver that has just started hands on. -/
def received (fs : List (Frame μ β)) : List (κ × α) :=
  (receiveAll fmt none fs).2

theorem receiveAll_append (held : Option (κ × List β)) (fs gs : List (Frame μ β)) :
    receiveAll fmt held (fs ++ gs) =
      ((receiveAll fmt (receiveAll fmt held fs).1 gs).1,
        (receiveAll fmt held fs).2 ++ (receiveAll fmt (receiveAll fmt held fs).1 gs).2) := by
  induction fs generalizing held with
  | nil => rfl
  | cons f fs ih =>
      rw [List.cons_append, receiveAll, receiveAll]
      simp only [ih, List.append_assoc]

/-- The frames of one message: the first opens it, the others go on with it. -/
structure Bundle (k : κ) (fs : List (Frame μ β)) : Prop where
  head : ∃ f rest, fs = f :: rest ∧ fmt.opens f.mark = some k
  tail : ∀ f ∈ fs.tail, fmt.opens f.mark = none ∧ fmt.continues k f.mark = true

/-- The symbols some frames carry. -/
def symbolsOf (fs : List (Frame μ β)) : List β :=
  fs.flatMap Frame.symbols

variable {fmt}

/-- Frames that go on with nothing are dropped. -/
theorem receiveAll_dropped {fs : List (Frame μ β)} (h : ∀ f ∈ fs, fmt.opens f.mark = none) :
    receiveAll fmt none fs = (none, []) := by
  induction fs with
  | nil => rfl
  | cons f fs ih =>
      have hcollect : collect fmt none f = none := by
        simp [collect, h f List.mem_cons_self]
      have hrest := ih fun g hg => h g (List.mem_cons_of_mem _ hg)
      rw [receiveAll, receive, hcollect]
      simp only [settle, hrest, List.append_nil]

/-- **A message goes on.**  What has been collected is not enough yet; it is read once, as
soon as enough has arrived, and what then follows of it is dropped. -/
theorem receiveAll_continued {k : κ} {xs : List β} {fs : List (Frame μ β)}
    (h : ∀ f ∈ fs, fmt.opens f.mark = none ∧ fmt.continues k f.mark = true) :
    (receiveAll fmt (settle fmt (some (k, xs))).1 fs).1 =
        (settle fmt (some (k, xs ++ symbolsOf fs))).1 ∧
      (settle fmt (some (k, xs))).2 ++ (receiveAll fmt (settle fmt (some (k, xs))).1 fs).2 =
        (settle fmt (some (k, xs ++ symbolsOf fs))).2 := by
  induction fs generalizing xs with
  | nil => simp [receiveAll, symbolsOf]
  | cons f fs ih =>
      have hhead := h f List.mem_cons_self
      have htail := fun g hg => h g (List.mem_cons_of_mem f hg)
      have hmore : xs ++ symbolsOf (f :: fs) = xs ++ f.symbols ++ symbolsOf fs := by
        simp [symbolsOf]
      cases hread : reading (fmt.reader k) xs with
      | some a =>
          -- read already: the rest is dropped, and reading it all makes the same of it
          have hall := (fmt.steady k).reading hread (symbolsOf (f :: fs))
          have hdropped : receiveAll fmt none (f :: fs) = (none, []) :=
            receiveAll_dropped fun g hg => (h g hg).1
          simp only [settle, hread, hall, hdropped, List.append_nil, and_self]
      | none =>
          have hcollect : collect fmt (some (k, xs)) f = some (k, xs ++ f.symbols) := by
            simp [collect, hhead.1, hhead.2]
          have hheld : settle fmt (some (k, xs)) = (some (k, xs), []) := by
            simp only [settle, hread]
          rw [hheld, hmore, receiveAll, receive, hcollect, List.nil_append]
          exact ih htail

/-- **A message arrives**, whatever was open before it. -/
theorem receiveAll_bundle {k : κ} {fs : List (Frame μ β)} (h : Bundle fmt k fs)
    (held : Option (κ × List β)) :
    receiveAll fmt held fs = settle fmt (some (k, symbolsOf fs)) := by
  obtain ⟨f, rest, rfl, hopens⟩ := h.head
  have hcollect : collect fmt held f = some (k, f.symbols) := by
    simp [collect, hopens]
  rw [receiveAll, receive, hcollect]
  obtain ⟨hstate, hout⟩ := receiveAll_continued h.tail
  exact Prod.ext hstate hout

/-- What is handed on of a message of which `xs` has arrived. -/
def delivered (fmt : Format μ κ β α) (k : κ) (xs : List β) : List (κ × α) :=
  ((reading (fmt.reader k) xs).map fun a => (k, a)).toList

theorem settle_snd (k : κ) (xs : List β) : (settle fmt (some (k, xs))).2 = delivered fmt k xs := by
  rw [settle, delivered]
  cases reading (fmt.reader k) xs with
  | none => rfl
  | some a => rfl

/-- **Many messages arrive**, some of them not at all.  Those of which enough has come are handed
on, each once and in their order. -/
theorem receiveAll_bundles {bundles : List (κ × List (Frame μ β))}
    (h : ∀ b ∈ bundles, Bundle fmt b.1 b.2 ∨ b.2 = [] ∧ delivered fmt b.1 [] = [])
    (held : Option (κ × List β)) :
    (receiveAll fmt held (bundles.flatMap Prod.snd)).2 =
      bundles.flatMap fun b => delivered fmt b.1 (symbolsOf b.2) := by
  induction bundles generalizing held with
  | nil => rfl
  | cons b bundles ih =>
      have hrest := fun held => ih (fun c hc => h c (List.mem_cons_of_mem b hc)) held
      rcases h b List.mem_cons_self with hbundle | ⟨hnone, hdelivered⟩
      · rw [List.flatMap_cons, List.flatMap_cons, receiveAll_append, hrest,
          receiveAll_bundle hbundle held, settle_snd]
      · have hempty : delivered fmt b.1 (symbolsOf b.2) = [] := by rwa [hnone]
        rw [List.flatMap_cons, List.flatMap_cons, hempty, hnone, List.nil_append, List.nil_append,
          hrest]

end Receiver

end Reassembly
