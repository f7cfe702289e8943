import SentraLab.Basic

/-!
# The memory-mapped writer

Model of `recording/mmap_writer.rs`. The file is its bytes. The mapping is shared and
covers the whole file as it stood when mapped, so it is its length, and a copy into it is
a write of the file's bytes. What the file system does is a parameter of each call: how
`open`, `set_len` and `map_mut` go in `new`, and how `set_len` and the remap go in `grow`.
A slice index out of range panics; `write` is `none` then.

`usize` sums are taken in `Nat`. A sum past `2^64` could only come from a file longer than
any `set_len` accepts, and then the slice index panics, so no write that returns `Ok` is
missed.

## Strategy

`Layout` says what a writer holds after writes that all returned `Ok`: the position is
the number of bytes written, the mapping covers the file, whose length is the capacity,
and the file begins with the bytes written. `grow` keeps it, since
`capacity + max(len, capacity)` covers `position + len`, and so does the copy
(`Layout.write`), so it holds after every run of successful writes, and no write from such
a state panics (`writes_keep_layout`). A failed `grow` has already dropped the mapping, and
then every later write that fits fails (`failed_grow_drops_mapping`).

`Written` is what is left of `Layout` in runs where writes may fail: the mapping may be
gone, but the position stays within the capacity and the file keeps the bytes of the writes
that returned `Ok`. Every call keeps it, so in no run does a write panic or `available`
go below zero (`writes_never_panic`).
-/

namespace SentraLab.Recording

/-- `File::set_len`: the file cut to `n` bytes, or extended with zeros. -/
def setLen (file : Bytes) (n : Nat) : Bytes := file.take n ++ List.replicate (n - file.length) 0

@[simp] theorem length_setLen (file : Bytes) (n : Nat) : (setLen file n).length = n := by
  simp only [setLen, List.length_append, List.length_take, List.length_replicate]
  omega

/-- Growing a file keeps the bytes it had. -/
theorem take_setLen {file : Bytes} {n k : Nat} (hk : k ≤ file.length) (hn : k ≤ n) :
    (setLen file n).take k = file.take k := by
  rw [setLen, List.take_append_of_le_length (by simp; omega), List.take_take,
    Nat.min_eq_left hn]

/-- `MmapWriter`: the file's bytes, the mapping (the length of the file it maps, `None`
once dropped), the position and the capacity. -/
structure MmapWriter where
  file : Bytes
  mmap : Option Nat
  position : Nat
  capacity : Nat
deriving DecidableEq, Repr

/-- How `MmapWriter::new`'s calls go: `open` fails, `set_len` fails, or `map_mut` fails. -/
inductive NewFault where
  | openFailed (e : String)
  | setLenFailed (e : String)
  | mapFailed (e : String)
deriving DecidableEq, Repr

/-- How `grow`'s calls go: `set_len` fails, or the remap fails. -/
inductive GrowFault where
  | setLenFailed (e : String)
  | remapFailed (e : String)
deriving DecidableEq, Repr

namespace MmapWriter

/-- `MmapWriter::new` on a file whose bytes are `existing` (`create(true)` keeps them). -/
def new (existing : Bytes) (capacity : Nat) :
    Option NewFault → Except EngineError MmapWriter
  | some (.openFailed e) => .error (.storageFailed ("Failed to open file: " ++ e))
  | some (.setLenFailed e) => .error (.storageFailed ("Failed to set file size: " ++ e))
  | some (.mapFailed e) => .error (.storageFailed ("Failed to create memory map: " ++ e))
  | none =>
    let file := setLen existing capacity
    .ok ⟨file, some file.length, 0, capacity⟩

/-- `MmapWriter::grow`: the mapping is dropped first, the file set to
`capacity + max(additional, capacity)` bytes and mapped again; the capacity changes only
when both succeed. -/
def grow (w : MmapWriter) (additional : Nat) :
    Option GrowFault → MmapWriter × Except EngineError Unit
  | some (.setLenFailed e) =>
    ({ w with mmap := none }, .error (.storageFailed ("Failed to grow file: " ++ e)))
  | some (.remapFailed e) =>
    ({ w with mmap := none, file := setLen w.file (w.capacity + max additional w.capacity) },
      .error (.storageFailed ("Failed to remap file: " ++ e)))
  | none =>
    let file := setLen w.file (w.capacity + max additional w.capacity)
    ({ w with file := file, mmap := some file.length,
              capacity := w.capacity + max additional w.capacity }, .ok ())

/-- The slice copy `mmap[position..position + len].copy_from_slice(data)` and the position
moved past it. -/
def copy (w : MmapWriter) (data : Bytes) : MmapWriter :=
  { w with file := w.file.take w.position ++ data ++ w.file.drop (w.position + data.length),
           position := w.position + data.length }

/-- `MmapWriter::write`: `grow` when `position + len > capacity`, then the copy into the
mapping; `none` when the slice index panics. -/
def write (w : MmapWriter) (data : Bytes) (fault : Option GrowFault) :
    Option (MmapWriter × Except EngineError Nat) :=
  let (w, grown) :=
    if w.capacity < w.position + data.length then w.grow data.length fault else (w, .ok ())
  match grown with
  | .error e => some (w, .error e)
  | .ok () =>
    match w.mmap with
    | some len =>
      if w.position + data.length ≤ len then some (w.copy data, .ok data.length) else none
    | none => some (w, .error (.storageFailed "Memory map not available"))

/-- `MmapWriter::flush`: `flush` of the mapping, if there is one, then `sync_all` of the
file. -/
def flush (w : MmapWriter) (mapFault syncFault : Option String) : Except EngineError Unit :=
  match w.mmap, mapFault, syncFault with
  | some _, some e, _ => .error (.storageFailed ("Failed to flush memory map: " ++ e))
  | _, _, some e => .error (.storageFailed ("Failed to sync file: " ++ e))
  | _, _, none => .ok ()

/-- Writes one after another while each returns `Ok`: the writer after the last, or `none`
at the first that does not. -/
def writeAll : MmapWriter → List (Bytes × Option GrowFault) → Option MmapWriter
  | w, [] => some w
  | w, (data, fault) :: rest =>
    match w.write data fault with
    | some (w', .ok _) => writeAll w' rest
    | _ => none

/-! ## Writes that return `Ok` -/

/-- What a writer holds after writes that all returned `Ok`, the bytes `written` in all:
the position past them, within the capacity; a mapping over the whole file, whose length
is the capacity; and the file beginning with them. -/
structure Layout (w : MmapWriter) (written : Bytes) : Prop where
  position_eq : w.position = written.length
  position_le : w.position ≤ w.capacity
  mmap_eq : w.mmap = some w.capacity
  length_eq : w.file.length = w.capacity
  take_eq : w.file.take w.position = written

theorem layout_new {existing : Bytes} {capacity : Nat} {fault : Option NewFault}
    {w : MmapWriter} (h : new existing capacity fault = .ok w) : Layout w [] := by
  rcases fault with _ | (_ | _ | _) <;> cases h
  exact ⟨rfl, Nat.zero_le _, by simp, by simp, rfl⟩

/-- `grow` with both calls succeeding keeps the layout and makes room for `additional`
bytes past the position. -/
theorem Layout.grow {w : MmapWriter} {written : Bytes} (h : Layout w written)
    (additional : Nat) :
    Layout (w.grow additional none).1 written ∧
      w.position + additional ≤ (w.grow additional none).1.capacity := by
  have := h.position_le
  have hmax := Nat.le_max_left additional w.capacity
  refine ⟨⟨h.position_eq, by simp [MmapWriter.grow]; omega, by simp [MmapWriter.grow],
    by simp [MmapWriter.grow], ?_⟩, by simp [MmapWriter.grow]; omega⟩
  simp only [MmapWriter.grow]
  rw [take_setLen (by rw [h.length_eq]; exact this) (by omega), h.take_eq]

/-- The copy of `data` into a mapping that covers it keeps the layout, now with `data`
written too. -/
theorem Layout.copy {w : MmapWriter} {written : Bytes} (h : Layout w written) (data : Bytes)
    (hfit : w.position + data.length ≤ w.capacity) : Layout (w.copy data) (written ++ data) := by
  have hlen := h.length_eq
  refine ⟨by simp [MmapWriter.copy, h.position_eq], by simpa [MmapWriter.copy] using hfit,
    h.mmap_eq, ?_, ?_⟩
  · simp only [MmapWriter.copy, List.length_append, List.length_take, List.length_drop]
    omega
  · have hp : (w.file.take w.position).length = w.position := by
      simp only [List.length_take]; omega
    simp only [MmapWriter.copy]
    rw [List.take_left' (by simp [hp]), h.take_eq]

/-- A write that fits the capacity of a writer whose mapping covers it is the copy. -/
theorem write_of_le {w : MmapWriter} {data : Bytes} (fault : Option GrowFault)
    (hm : w.mmap = some w.capacity) (hfit : w.position + data.length ≤ w.capacity) :
    w.write data fault = some (w.copy data, .ok data.length) := by
  simp [MmapWriter.write, Nat.not_lt.mpr hfit, hm, hfit]

/-- A write past the capacity from a laid-out writer grows the file, and the copy then fits
the new mapping. -/
theorem Layout.write_of_lt {w : MmapWriter} {written data : Bytes} (h : Layout w written)
    (hgrow : w.capacity < w.position + data.length) :
    w.write data none = some ((w.grow data.length none).1.copy data, .ok data.length) := by
  simp only [MmapWriter.write, hgrow, ↓reduceIte, MmapWriter.grow, length_setLen]
  rw [if_pos (Nat.add_le_add h.position_le (Nat.le_max_left _ _))]

/-- A write past the capacity whose `grow` fails returns `grow`'s error, with the mapping
already dropped. -/
theorem write_of_lt_fault {w : MmapWriter} {data : Bytes} (f : GrowFault)
    (hgrow : w.capacity < w.position + data.length) :
    ∃ e, w.write data (some f) = some ((w.grow data.length (some f)).1, .error e) := by
  cases f <;> exact ⟨_, by simp [MmapWriter.write, hgrow, MmapWriter.grow]; rfl⟩

/-- A write that fits the capacity of a writer with no mapping fails and changes nothing. -/
theorem write_of_le_of_unmapped {w : MmapWriter} {data : Bytes} (fault : Option GrowFault)
    (hm : w.mmap = none) (hfit : w.position + data.length ≤ w.capacity) :
    w.write data fault = some (w, .error (.storageFailed "Memory map not available")) := by
  simp [MmapWriter.write, Nat.not_lt.mpr hfit, hm]

/-- From a laid-out writer no write panics, and a write that returns `Ok` wrote all of
`data` and keeps the layout. -/
theorem Layout.write {w : MmapWriter} {written : Bytes} (h : Layout w written) (data : Bytes)
    (fault : Option GrowFault) :
    w.write data fault ≠ none ∧ ∀ w' n, w.write data fault = some (w', .ok n) →
      n = data.length ∧ Layout w' (written ++ data) := by
  by_cases hgrow : w.capacity < w.position + data.length
  · rcases fault with _ | f
    · rw [h.write_of_lt hgrow]
      obtain ⟨hl, hfit⟩ := h.grow data.length
      refine ⟨Option.some_ne_none _, fun w' n hw => ?_⟩
      simp only [Option.some.injEq, Prod.mk.injEq, Except.ok.injEq] at hw
      obtain ⟨rfl, rfl⟩ := hw
      exact ⟨rfl, hl.copy data hfit⟩
    · obtain ⟨e, he⟩ := write_of_lt_fault f hgrow
      rw [he]
      exact ⟨Option.some_ne_none _, fun w' n hw => by simp at hw⟩
  · have hfit := Nat.le_of_not_lt hgrow
    rw [write_of_le fault h.mmap_eq hfit]
    refine ⟨Option.some_ne_none _, fun w' n hw => ?_⟩
    simp only [Option.some.injEq, Prod.mk.injEq, Except.ok.injEq] at hw
    obtain ⟨rfl, rfl⟩ := hw
    exact ⟨rfl, h.copy data hfit⟩

/-- Writes that all return `Ok` keep the layout, with their bytes written in order. -/
theorem Layout.of_writeAll {ops : List (Bytes × Option GrowFault)} :
    ∀ {w w' : MmapWriter} {written : Bytes}, Layout w written →
      MmapWriter.writeAll w ops = some w' → Layout w' (written ++ (ops.map Prod.fst).flatten) := by
  induction ops with
  | nil => intro w w' written h hw; cases hw; simpa using h
  | cons op ops ih =>
    intro w w' written h hw
    obtain ⟨data, fault⟩ := op
    simp only [MmapWriter.writeAll] at hw
    split at hw
    · rename_i w₁ n h₁
      simpa using ih ((h.write data fault).2 w₁ n h₁).2 hw
    · cases hw

/-- For every file and capacity that `new` opens and every sequence of writes that all
return `Ok`: the position is the number of bytes written and within the capacity, which is
the length of the mapping and of the file; the file begins with the bytes written, in
order; and no further write panics, so a copy's range `[position, position + len)` lies
inside the mapping, across `grow` too. -/
theorem writes_keep_layout {existing : Bytes} {capacity : Nat} {fault : Option NewFault}
    {w₀ w : MmapWriter} (h₀ : new existing capacity fault = .ok w₀)
    (ops : List (Bytes × Option GrowFault)) (h : writeAll w₀ ops = some w) :
    w.position = ((ops.map Prod.fst).flatten).length ∧ w.position ≤ w.capacity ∧
      w.mmap = some w.capacity ∧ w.file.length = w.capacity ∧
      w.file.take w.position = (ops.map Prod.fst).flatten ∧
      ∀ data fault, w.write data fault ≠ none := by
  have hl := (layout_new h₀).of_writeAll h
  rw [List.nil_append] at hl
  exact ⟨hl.position_eq, hl.position_le, hl.mmap_eq, hl.length_eq, hl.take_eq,
    fun data fault => (hl.write data fault).1⟩

/-- A writer of capacity 10 over an old file of 12 bytes: five bytes, then eleven, which
grow it to 21, then three. -/
theorem writes_keep_layout_grow_once :
    let ops : List (Bytes × Option GrowFault) :=
      [(List.replicate 5 1, none), (List.replicate 11 2, none), (List.replicate 3 3, none)]
    ∃ w₀ w, new (List.replicate 12 7) 10 none = .ok w₀ ∧ writeAll w₀ ops = some w ∧
      w.capacity = 21 ∧
      (w.position = ((ops.map Prod.fst).flatten).length ∧ w.position ≤ w.capacity ∧
        w.mmap = some w.capacity ∧ w.file.length = w.capacity ∧
        w.file.take w.position = (ops.map Prod.fst).flatten ∧
        ∀ data fault, w.write data fault ≠ none) := by
  intro ops
  have h₀ : new (List.replicate 12 7) 10 none = .ok ⟨List.replicate 10 7, some 10, 0, 10⟩ :=
    rfl
  cases h : writeAll ⟨List.replicate 10 7, some 10, 0, 10⟩ ops with
  | none => exact absurd h (by decide)
  | some w =>
    have hc : (writeAll ⟨List.replicate 10 7, some 10, 0, 10⟩ ops).map capacity = some 21 := by
      decide
    rw [h] at hc
    exact ⟨_, w, h₀, h, Option.some.inj hc, writes_keep_layout h₀ ops h⟩

/-- For every writer and every data past its capacity, when `set_len` or the remap in
`grow` fails, `write` returns `Err` with the position and the capacity as they were but the
mapping gone; after that, every write that fits the capacity returns
`Err("Memory map not available")` and changes nothing. -/
theorem failed_grow_drops_mapping (w : MmapWriter) (data : Bytes) (f : GrowFault)
    (hgrow : w.capacity < w.position + data.length) :
    ∃ w' e, w.write data (some f) = some (w', .error e) ∧ w'.mmap = none ∧
      w'.position = w.position ∧ w'.capacity = w.capacity ∧
      ∀ (data' : Bytes) (fault : Option GrowFault), w'.position + data'.length ≤ w'.capacity →
        w'.write data' fault = some (w', .error (.storageFailed "Memory map not available")) := by
  obtain ⟨e, he⟩ := write_of_lt_fault f hgrow
  have hm : (w.grow data.length (some f)).1.mmap = none := by cases f <;> rfl
  refine ⟨_, e, he, hm, by cases f <;> rfl, by cases f <;> rfl, fun data' fault hfit => ?_⟩
  exact write_of_le_of_unmapped fault hm hfit

/-- A writer of capacity 10, eleven bytes whose `grow` meets a failing `set_len`, then one
byte. -/
theorem failed_grow_drops_mapping_then_one_byte :
    ∃ w₀, new [] 10 none = .ok w₀ ∧ w₀.capacity < w₀.position + (List.replicate 11 1).length ∧
      ∃ w' e, w₀.write (List.replicate 11 1) (some (.setLenFailed "EFBIG")) =
          some (w', .error e) ∧ w'.mmap = none ∧
        w'.position = w₀.position ∧ w'.capacity = w₀.capacity ∧
        ∀ (data' : Bytes) (fault : Option GrowFault), w'.position + data'.length ≤ w'.capacity →
          w'.write data' fault =
            some (w', .error (.storageFailed "Memory map not available")) :=
  ⟨_, rfl, by decide,
    failed_grow_drops_mapping _ (List.replicate 11 1) (.setLenFailed "EFBIG") (by decide)⟩

/-! ## Every run, failing writes included

`Written` weakens `Layout` to what also survives a failed `grow`: the mapping may be gone,
and a failed remap may leave the file longer than the capacity, but the position stays
within the capacity and the file still begins with the bytes of the writes that returned
`Ok`. Every call keeps it (`Written.write`), so no call panics in any run. -/

/-- `MmapWriter::available`: `capacity - position`, a `usize` subtraction; `none` when it
would go below zero, where a debug build panics. -/
def available (w : MmapWriter) : Option Nat :=
  if w.position ≤ w.capacity then some (w.capacity - w.position) else none

/-- Not from the source: one call of `write` by a client of the writer, with the bytes of
the calls that returned `Ok` kept beside it; `none` when the call panics. -/
def writeCall (s : MmapWriter × Bytes) (op : Bytes × Option GrowFault) :
    Option (MmapWriter × Bytes) :=
  (s.1.write op.1 op.2).map fun r =>
    (r.1, match r.2 with
      | .ok _ => s.2 ++ op.1
      | .error _ => s.2)

/-- What a writer holds after any calls, `written` being the bytes of those that returned
`Ok`: the position past them and within the capacity and the file; a mapping, when there
is one, over the whole file, whose length is the capacity; the file beginning with them. -/
structure Written (w : MmapWriter) (written : Bytes) : Prop where
  position_eq : w.position = written.length
  position_le : w.position ≤ w.capacity
  position_le_length : w.position ≤ w.file.length
  mapped : ∀ len, w.mmap = some len → len = w.capacity ∧ w.file.length = w.capacity
  take_eq : w.file.take w.position = written

theorem Layout.written {w : MmapWriter} {written : Bytes} (h : Layout w written) :
    Written w written :=
  ⟨h.position_eq, h.position_le, h.length_eq ▸ h.position_le,
    fun _ hm => ⟨Option.some.inj (hm.symm.trans h.mmap_eq), h.length_eq⟩, h.take_eq⟩

theorem Written.layout {w : MmapWriter} {written : Bytes} (h : Written w written)
    (hm : w.mmap = some w.capacity) : Layout w written :=
  ⟨h.position_eq, h.position_le, hm, (h.mapped _ hm).2, h.take_eq⟩

/-- `grow` keeps `Written` whatever its calls do; when both succeed the file is mapped again
at the new capacity, which covers `additional` bytes past the position. -/
theorem Written.grow {w : MmapWriter} {written : Bytes} (h : Written w written)
    (additional : Nat) (fault : Option GrowFault) :
    Written (w.grow additional fault).1 written ∧
      (fault = none → (w.grow additional fault).1.mmap = some (w.grow additional fault).1.capacity ∧
        w.position + additional ≤ (w.grow additional fault).1.capacity) := by
  have hmax := Nat.le_max_left additional w.capacity
  have hle := h.position_le
  have htake : (setLen w.file (w.capacity + max additional w.capacity)).take w.position =
      written := by
    rw [take_setLen h.position_le_length (by omega), h.take_eq]
  rcases fault with _ | (e | e)
  · refine ⟨⟨h.position_eq, by simp [MmapWriter.grow]; omega, by simp [MmapWriter.grow]; omega,
      fun _ hm => ?_, htake⟩, fun _ => ⟨by simp [MmapWriter.grow], by simp [MmapWriter.grow]; omega⟩⟩
    simp only [MmapWriter.grow, Option.some.injEq] at hm
    simp [MmapWriter.grow, ← hm]
  · exact ⟨⟨h.position_eq, hle, h.position_le_length, (fun _ hm => by cases hm), h.take_eq⟩, nofun⟩
  · refine ⟨⟨h.position_eq, hle, by simp [MmapWriter.grow]; omega, (fun _ hm => by cases hm), htake⟩, nofun⟩

/-- A write past the capacity whose `grow` succeeds is the copy into the grown mapping. -/
theorem write_of_lt_of_le {w : MmapWriter} {data : Bytes} (hle : w.position ≤ w.capacity)
    (hgrow : w.capacity < w.position + data.length) :
    w.write data none = some ((w.grow data.length none).1.copy data, .ok data.length) := by
  simp only [MmapWriter.write, hgrow, ↓reduceIte, MmapWriter.grow, length_setLen]
  rw [if_pos (Nat.add_le_add hle (Nat.le_max_left _ _))]

/-- From a writer that holds `Written`, no call panics, and the call keeps `Written` with
the bytes it wrote when it returns `Ok`. -/
theorem Written.write {w : MmapWriter} {written : Bytes} (h : Written w written) (data : Bytes)
    (fault : Option GrowFault) :
    ∃ s', writeCall (w, written) (data, fault) = some s' ∧ Written s'.1 s'.2 := by
  by_cases hgrow : w.capacity < w.position + data.length
  · rcases fault with _ | f
    · obtain ⟨hw, hm⟩ := h.grow data.length none
      obtain ⟨hmap, hfit⟩ := hm rfl
      rw [writeCall, write_of_lt_of_le h.position_le hgrow]
      exact ⟨_, rfl, ((hw.layout hmap).copy data hfit).written⟩
    · obtain ⟨e, he⟩ := write_of_lt_fault f hgrow
      rw [writeCall, he]
      exact ⟨_, rfl, (h.grow data.length (some f)).1⟩
  · have hfit := Nat.le_of_not_lt hgrow
    cases hm : w.mmap with
    | none =>
      rw [writeCall, write_of_le_of_unmapped fault hm hfit]
      exact ⟨_, rfl, h⟩
    | some len =>
      obtain ⟨rfl, -⟩ := h.mapped len hm
      rw [writeCall, write_of_le fault hm hfit]
      exact ⟨_, rfl, ((h.layout hm).copy data hfit).written⟩

/-- For every file and capacity that `new` opens and every sequence of `write` calls, each
of whose `grow` may fail on `set_len` or on the remap: no call panics, `available` never
goes below zero, the position is the number of bytes of the calls that returned `Ok`, and
the file begins with those bytes, in order. A failed call loses only its own bytes, and
once a later `grow` succeeds the writer is mapped again. -/
theorem writes_never_panic {existing : Bytes} {capacity : Nat} {fault : Option NewFault}
    {w₀ : MmapWriter} (h₀ : new existing capacity fault = .ok w₀) {s : MmapWriter × Bytes}
    (hr : Reach writeCall (fun _ _ => true) (w₀, []) s) :
    s.1.available = some (s.1.capacity - s.2.length) ∧ s.1.position = s.2.length ∧
      s.1.file.take s.1.position = s.2 ∧ ∀ data fault, s.1.write data fault ≠ none := by
  have hs : Written s.1 s.2 := by
    refine hr.induct (fun s => Written s.1 s.2) (layout_new h₀).written ?_
    intro s s' op hw _ hstep
    obtain ⟨s'', hs'', hw''⟩ := hw.write op.1 op.2
    rw [show writeCall s op = writeCall (s.1, s.2) (op.1, op.2) from rfl, hs''] at hstep
    exact Option.some.inj hstep ▸ hw''
  refine ⟨by rw [available, if_pos hs.position_le, hs.position_eq], hs.position_eq, hs.take_eq,
    fun data fault hn => ?_⟩
  obtain ⟨s', hs', -⟩ := hs.write data fault
  simp [writeCall, hn] at hs'

/-- A writer of capacity 10: eleven bytes whose `set_len` fails, one byte that then finds no
mapping, and eleven bytes whose `grow` succeeds and maps the file again. -/
theorem writes_never_panic_after_failed_grow :
    let w₀ : MmapWriter := ⟨List.replicate 10 0, some 10, 0, 10⟩
    let ops : List (Bytes × Option GrowFault) :=
      [(List.replicate 11 1, some (.setLenFailed "EFBIG")), ([2], none), (List.replicate 11 3, none)]
    ∃ s, new [] 10 none = .ok w₀ ∧ Reach writeCall (fun _ _ => true) (w₀, []) s ∧
      runSteps writeCall (fun _ _ => true) (w₀, []) ops = some s ∧ s.1.capacity = 21 ∧
      (s.1.available = some (s.1.capacity - s.2.length) ∧ s.1.position = s.2.length ∧
        s.1.file.take s.1.position = s.2 ∧ ∀ data fault, s.1.write data fault ≠ none) := by
  intro w₀ ops
  have hrun : runSteps writeCall (fun _ _ => true) (w₀, []) ops =
      some (⟨List.replicate 11 3 ++ List.replicate 10 0, some 21, 11, 21⟩, List.replicate 11 3) := by
    decide
  have h₀ : new [] 10 none = .ok w₀ := rfl
  have hr := Reach.runSteps .init hrun
  exact ⟨_, h₀, hr, hrun, rfl, writes_never_panic h₀ hr⟩

end MmapWriter

end SentraLab.Recording
