import Mathlib.Data.Multiset.Nodup
import SentraLab.Recording.Storage

/-!
# What the blob store keeps

Within one session opened on an empty directory the index is sound, under every
interleaving of `write_batch` calls and every failure: `SessionInv` says that batch
numbers are never taken twice and never above `batch_counter`, and that every row names
a file holding exactly the bytes of the call that inserted it. When calls do not overlap
the rows are in increasing batch order (`SeqInv`), and when moreover none fails they are
batch `1, …, N` with no gap (`SeqOkInv`).

Across sessions the index is not sound: `EventStorage::new` restarts `batch_counter` at
`0` on a directory that already holds batches, so the next session overwrites
`batch_00000001.zst` under a row that still records the old size
(`reopen_overwrites_indexed_batch`).
-/

namespace SentraLab.Recording

namespace EventStorage

/-- The batch numbers held by the rows and by the calls in flight. -/
def batchNos (s : EventStorage) : Multiset Nat :=
  ↑(s.disk.rows.map (·.batchNo)) + ↑(s.allocated.map (·.batchNo)) +
    ↑(s.written.map (·.batchNo))

/-! ## How each step moves the batch numbers -/

/-- `l.map f` is `f c` and the rest, for a member `c`. -/
private theorem coe_map_eq_cons {l : List WriteCall} {c : WriteCall} (hc : c ∈ l) :
    (↑(l.map (·.batchNo)) : Multiset Nat) = c.batchNo ::ₘ ↑((l.erase c).map (·.batchNo)) :=
  Multiset.coe_eq_coe.mpr ((List.perm_cons_erase hc).map _)

theorem batchNos_begin (s : EventStorage) (data : Bytes) :
    (s.begin data).batchNos = (s.batchCounter + 1) ::ₘ s.batchNos := by
  simp only [batchNos, begin, List.map_cons, ← Multiset.cons_coe, Multiset.add_cons,
    Multiset.cons_add]

theorem batchNos_fileWritten {s : EventStorage} {c : WriteCall} (hc : c ∈ s.allocated) :
    (s.fileWritten c).batchNos = s.batchNos := by
  simp only [batchNos, fileWritten, Disk.setFile_rows, coe_map_eq_cons hc, List.map_cons,
    ← Multiset.cons_coe, Multiset.add_cons, Multiset.cons_add]

theorem batchNos_fileFailed {s : EventStorage} {c : WriteCall} (hc : c ∈ s.allocated)
    (left : Option Bytes) : s.batchNos = c.batchNo ::ₘ (s.fileFailed c left).batchNos := by
  simp only [batchNos, fileFailed, Disk.setFile_rows, coe_map_eq_cons hc, Multiset.add_cons,
    Multiset.cons_add]

theorem batchNos_rowInserted {s : EventStorage} {c : WriteCall} (hc : c ∈ s.written)
    (createdAt : Int) : (s.rowInserted c true createdAt).batchNos = s.batchNos := by
  simp only [batchNos, rowInserted, if_true, Disk.insertRow_rows, List.map_append,
    List.map_cons, List.map_nil, ← Multiset.coe_add, coe_map_eq_cons hc, ← Multiset.cons_coe,
    Multiset.add_cons, Multiset.cons_add, Multiset.coe_nil, add_zero]

theorem batchNos_rowDropped {s : EventStorage} {c : WriteCall} (hc : c ∈ s.written)
    (createdAt : Int) : s.batchNos = c.batchNo ::ₘ (s.rowInserted c false createdAt).batchNos := by
  simp only [batchNos, rowInserted, Bool.false_eq_true, if_false, coe_map_eq_cons hc,
    Multiset.add_cons]

/-! ## One session on an empty directory -/

/-- The invariant of a session opened on an empty directory. -/
structure SessionInv (s : EventStorage) : Prop where
  nodup : s.batchNos.Nodup
  bounds : ∀ n ∈ s.batchNos, 1 ≤ n ∧ n ≤ s.batchCounter
  rows_file : ∀ r ∈ s.disk.rows,
    s.disk.files r.batchNo = some r.payload ∧ r.compressedSize = r.payload.length
  written_file : ∀ c ∈ s.written, s.disk.files c.batchNo = some c.data

private theorem ne_of_nodup_add {A B : Multiset Nat} (h : (A + B).Nodup) {a b : Nat}
    (ha : a ∈ A) (hb : b ∈ B) : a ≠ b := by
  rintro rfl
  exact Multiset.disjoint_left.mp (Multiset.nodup_add.mp h).2.2 ha hb

namespace SessionInv

variable {s : EventStorage} (hs : SessionInv s)
include hs

theorem row_ne_allocated {r : BatchRow} {c : WriteCall} (hr : r ∈ s.disk.rows)
    (hc : c ∈ s.allocated) : r.batchNo ≠ c.batchNo :=
  ne_of_nodup_add (Multiset.nodup_add.mp hs.nodup).1
    (Multiset.mem_coe.mpr (List.mem_map_of_mem _ hr))
    (Multiset.mem_coe.mpr (List.mem_map_of_mem _ hc))

theorem written_ne_allocated {c c' : WriteCall} (hc : c ∈ s.written)
    (hc' : c' ∈ s.allocated) : c.batchNo ≠ c'.batchNo :=
  (ne_of_nodup_add hs.nodup
    (Multiset.mem_add.mpr (.inr (Multiset.mem_coe.mpr (List.mem_map_of_mem _ hc'))))
    (Multiset.mem_coe.mpr (List.mem_map_of_mem _ hc))).symm

theorem begin (data : Bytes) : SessionInv (s.begin data) where
  nodup := by
    rw [batchNos_begin]
    exact Multiset.nodup_cons.mpr ⟨fun h => by have := (hs.bounds _ h).2; omega, hs.nodup⟩
  bounds n hn := by
    rw [batchNos_begin, Multiset.mem_cons] at hn
    rcases hn with rfl | hn
    · exact ⟨by omega, le_rfl⟩
    · have := hs.bounds n hn; exact ⟨this.1, by simp [EventStorage.begin]; omega⟩
  rows_file := hs.rows_file
  written_file := hs.written_file

theorem fileWritten {c : WriteCall} (hc : c ∈ s.allocated) : SessionInv (s.fileWritten c) where
  nodup := by rw [batchNos_fileWritten hc]; exact hs.nodup
  bounds := by rw [batchNos_fileWritten hc]; exact hs.bounds
  rows_file r hr := by
    simpa [EventStorage.fileWritten, Disk.setFile, hs.row_ne_allocated hr hc] using
      hs.rows_file r hr
  written_file c' hc' := by
    rcases List.mem_cons.mp hc' with rfl | hc'
    · simp [EventStorage.fileWritten, Disk.setFile]
    · simpa [EventStorage.fileWritten, Disk.setFile, hs.written_ne_allocated hc' hc] using
        hs.written_file c' hc'

theorem fileFailed {c : WriteCall} (hc : c ∈ s.allocated) (left : Option Bytes) :
    SessionInv (s.fileFailed c left) where
  nodup := (Multiset.nodup_cons.mp (batchNos_fileFailed hc left ▸ hs.nodup)).2
  bounds n hn := hs.bounds n (batchNos_fileFailed hc left ▸ Multiset.mem_cons_of_mem hn)
  rows_file r hr := by
    simpa [EventStorage.fileFailed, Disk.setFile, hs.row_ne_allocated hr hc] using
      hs.rows_file r hr
  written_file c' hc' := by
    simpa [EventStorage.fileFailed, Disk.setFile, hs.written_ne_allocated hc' hc] using
      hs.written_file c' hc'

theorem rowInserted {c : WriteCall} (hc : c ∈ s.written) (ok : Bool) (createdAt : Int) :
    SessionInv (s.rowInserted c ok createdAt) := by
  cases ok with
  | false => exact
    { nodup := (Multiset.nodup_cons.mp (batchNos_rowDropped hc createdAt ▸ hs.nodup)).2
      bounds := fun n hn =>
        hs.bounds n (batchNos_rowDropped hc createdAt ▸ Multiset.mem_cons_of_mem hn)
      rows_file := by simpa [EventStorage.rowInserted] using hs.rows_file
      written_file := fun c' hc' => hs.written_file c' (List.mem_of_mem_erase hc') }
  | true => exact
    { nodup := by rw [batchNos_rowInserted hc]; exact hs.nodup
      bounds := by rw [batchNos_rowInserted hc]; exact hs.bounds
      rows_file := fun r hr => by
        simp only [EventStorage.rowInserted, if_true, Disk.insertRow, List.mem_append,
          List.mem_singleton] at hr ⊢
        rcases hr with hr | rfl
        · exact hs.rows_file r hr
        · exact ⟨hs.written_file c hc, rfl⟩
      written_file := fun c' hc' => by
        simpa [EventStorage.rowInserted, Disk.insertRow] using
          hs.written_file c' (List.mem_of_mem_erase hc') }

end SessionInv

theorem sessionInv_new_empty : SessionInv (new Disk.empty) :=
  ⟨by simp [batchNos, new, Disk.empty], by simp [batchNos, new, Disk.empty],
    by simp [new, Disk.empty], by simp [new]⟩

/-- Every step of a session keeps `SessionInv`. -/
theorem SessionInv.step {s s' : EventStorage} {op : StorageOp} (hs : SessionInv s)
    (hop : inSession s op = true) (h : s.step op = some s') : SessionInv s' := by
  cases op with
  | begin data => cases h; exact hs.begin data
  | writeFile n failure =>
    obtain ⟨c, hc, -, ⟨-, rfl⟩ | ⟨left, -, rfl⟩⟩ := writeFile_eq_some h
    · exact hs.fileWritten hc
    · exact hs.fileFailed hc left
  | insertRow n ok createdAt =>
    obtain ⟨c, hc, -, rfl⟩ := insertRow_eq_some h
    exact hs.rowInserted hc ok createdAt
  | reopen => cases hop

/-- `SessionInv` holds in every state of a session opened on an empty directory. -/
theorem sessionInv_of_reach {s : EventStorage} (h : Reach step inSession (new Disk.empty) s) :
    SessionInv s :=
  Reach.induct SessionInv sessionInv_new_empty (fun hs hop h => hs.step hop h) h

/-- Two sessions on one directory, each writing one batch: the second session's counter
starts again at `0`, so its batch overwrites `batch_00000001.zst` while the first row
still records 3 bytes, and `read_batch` of that row's id returns the second batch. -/
theorem reopen_overwrites_indexed_batch :
    ∃ s, Reach step anySession (new Disk.empty) s ∧
      ∃ r ∈ s.disk.rows, r.payload = [1, 2, 3] ∧ r.compressedSize = 3 ∧
        s.disk.files r.batchNo = some [4] ∧ s.readBatch r.batchNo = .ok [4] := by
  obtain ⟨s, hs, hp⟩ := reach_of_runSteps step anySession (new Disk.empty)
    [.begin [1, 2, 3], .writeFile 1 none, .insertRow 1 true 0, .reopen,
      .begin [4], .writeFile 1 none, .insertRow 1 true 0]
    (fun s => s.disk.rows.any fun r => r.payload == [1, 2, 3] && r.compressedSize == 3 &&
      s.disk.files r.batchNo == some [4] && (s.readBatch r.batchNo).toOption == some [4])
    (by decide)
  refine ⟨s, hs, ?_⟩
  simp only [List.any_eq_true, Bool.and_eq_true, beq_iff_eq] at hp
  obtain ⟨r, hr, ⟨⟨h1, h2⟩, h3⟩, h4⟩ := hp
  refine ⟨r, hr, h1, h2, h3, ?_⟩
  cases h : s.readBatch r.batchNo <;> simp_all [Except.toOption]

/-! ## Calls that do not overlap -/

/-- The `write_batch` calls in flight. -/
def inFlight (s : EventStorage) : List WriteCall := s.allocated ++ s.written

/-- The batch ids `list_batches` returns are the rows' batch numbers in `id` order. -/
@[simp] theorem listBatches_map_batchId (s : EventStorage) :
    s.listBatches.map (·.batchId) = s.disk.rows.map (·.batchNo) := by
  simp [listBatches]

private theorem eq_singleton_of_mem {l : List WriteCall} {c : WriteCall} (hl : l.length ≤ 1)
    (hc : c ∈ l) : l = [c] := by
  match l, hl, hc with
  | [x], _, hc => rw [List.mem_singleton.mp hc]

/-- The invariant of a session whose calls do not overlap: rows in increasing batch order,
below the call in flight, of which there is at most one. -/
structure SeqInv (s : EventStorage) : Prop where
  sorted : (s.disk.rows.map (·.batchNo)).Sorted (· < ·)
  below : ∀ c ∈ s.inFlight, ∀ r ∈ s.disk.rows, r.batchNo < c.batchNo
  single : s.inFlight.length ≤ 1

theorem SeqInv.step {s s' : EventStorage} {op : StorageOp} (hs : SessionInv s)
    (hq : SeqInv s) (hop : sequential s op = true) (h : s.step op = some s') : SeqInv s' := by
  cases op with
  | begin data =>
    cases h
    simp only [sequential, Bool.and_eq_true, List.isEmpty_iff] at hop
    refine ⟨hq.sorted, fun c hc r hr => ?_, by simp [inFlight, EventStorage.begin, hop.1, hop.2]⟩
    simp only [inFlight, EventStorage.begin, hop.1, hop.2, List.cons_append, List.nil_append,
      List.mem_singleton] at hc
    have := hs.bounds r.batchNo
      (Multiset.mem_add.mpr (.inl (Multiset.mem_add.mpr (.inl
        (Multiset.mem_coe.mpr (List.mem_map_of_mem _ hr))))))
    rw [hc]; simp only [EventStorage.begin] at hr ⊢; omega
  | writeFile n failure =>
    obtain ⟨c, hc, -, ⟨-, rfl⟩ | ⟨left, -, rfl⟩⟩ := writeFile_eq_some h
    · refine ⟨hq.sorted, fun c' hc' r hr => hq.below c' ?_ r hr, ?_⟩
      · simp only [inFlight, fileWritten, List.mem_append, List.mem_cons] at hc' ⊢
        rcases hc' with hc' | rfl | hc'
        · exact .inl (List.mem_of_mem_erase hc')
        · exact .inl hc
        · exact .inr hc'
      · have := hq.single
        simp only [inFlight, fileWritten, List.length_append, List.length_cons,
          List.length_erase_of_mem hc] at this ⊢
        have := List.length_pos_of_mem hc; omega
    · refine ⟨hq.sorted, fun c' hc' r hr => hq.below c' ?_ r hr, ?_⟩
      · simp only [inFlight, fileFailed, List.mem_append] at hc' ⊢
        exact hc'.imp_left List.mem_of_mem_erase
      · have := hq.single
        simp only [inFlight, fileFailed, List.length_append,
          List.length_erase_of_mem hc] at this ⊢
        omega
  | insertRow n ok createdAt =>
    obtain ⟨c, hc, -, rfl⟩ := insertRow_eq_some h
    have hw : s.allocated = [] ∧ s.written = [c] := by
      have := hq.single
      simp only [inFlight, List.length_append] at this
      have hl := List.length_pos_of_mem hc
      exact ⟨List.eq_nil_of_length_eq_zero (by omega), eq_singleton_of_mem (by omega) hc⟩
    have hempty : (s.rowInserted c ok createdAt).inFlight = [] := by
      simp [inFlight, rowInserted, hw.1, hw.2]
    refine ⟨?_, by simp [hempty], by simp [hempty]⟩
    cases ok with
    | false => exact hq.sorted
    | true =>
      simp only [rowInserted, if_true, Disk.insertRow_rows, List.map_append, List.map_cons,
        List.map_nil]
      exact List.pairwise_append.mpr ⟨hq.sorted, List.pairwise_singleton _ _, fun a ha b hb => by
        obtain ⟨r, hr, rfl⟩ := List.mem_map.mp ha
        rw [List.mem_singleton.mp hb]
        exact hq.below c (List.mem_append_right _ hc) r hr⟩
  | reopen => cases hop

/-- The invariant of a session whose calls neither overlap nor fail: the rows and the
call in flight hold batch `1, …, batch_counter`, in order. -/
def SeqOkInv (s : EventStorage) : Prop :=
  s.disk.rows.map (·.batchNo) ++ s.inFlight.map (·.batchNo) = List.range' 1 s.batchCounter

theorem SeqOkInv.step {s s' : EventStorage} {op : StorageOp} (hq : SeqInv s)
    (hok : SeqOkInv s) (hop : sequentialOk s op = true) (h : s.step op = some s') :
    SeqOkInv s' := by
  unfold SeqOkInv at hok ⊢
  cases op with
  | begin data =>
    cases h
    simp only [sequentialOk, Bool.and_eq_true, List.isEmpty_iff] at hop
    simp only [inFlight, hop.1, hop.2, List.append_nil, List.map_nil] at hok
    simp [inFlight, EventStorage.begin, hop.1, hop.2, List.range'_concat, hok, Nat.add_comm]
  | writeFile n failure =>
    obtain ⟨c, hc, -, ⟨-, rfl⟩ | ⟨left, rfl, -⟩⟩ := writeFile_eq_some h
    · have hl := hq.single
      simp only [inFlight, List.length_append] at hl
      have := List.length_pos_of_mem hc
      have ha : s.allocated = [c] := eq_singleton_of_mem (by omega) hc
      have hw : s.written = [] := List.eq_nil_of_length_eq_zero (by omega)
      simpa [inFlight, fileWritten, ha, hw] using hok
    · simp [sequentialOk] at hop
  | insertRow n ok createdAt =>
    obtain ⟨c, hc, -, rfl⟩ := insertRow_eq_some h
    simp only [sequentialOk] at hop
    subst hop
    have hl := hq.single
    simp only [inFlight, List.length_append] at hl
    have := List.length_pos_of_mem hc
    have hw : s.written = [c] := eq_singleton_of_mem (by omega) hc
    have ha : s.allocated = [] := List.eq_nil_of_length_eq_zero (by omega)
    simpa [inFlight, rowInserted, ha, hw] using hok
  | reopen => cases hop

theorem seqInv_new_empty : SeqInv (new Disk.empty) :=
  ⟨List.sorted_nil, by simp [inFlight, new, Disk.empty], by simp [inFlight, new, Disk.empty]⟩

/-- A prefix of `range' a n` is `range' a` of its length. -/
private theorem eq_range'_of_append_eq {l l' : List Nat} {a n : Nat}
    (h : l ++ l' = List.range' a n) : l = List.range' a l.length := by
  have hn : n = l'.length + l.length := by
    have := congrArg List.length h
    simp only [List.length_append, List.length_range'] at this; omega
  subst hn
  rw [← List.range'_append_1] at h
  exact (List.append_inj h (by simp)).1

private theorem sequential_inSession {s : EventStorage} {op : StorageOp}
    (h : sequential s op = true) : inSession s op = true := by
  cases op <;> simp_all [sequential, inSession]

private theorem sequentialOk_sequential {s : EventStorage} {op : StorageOp}
    (h : sequentialOk s op = true) : sequential s op = true := by
  cases op <;> simp_all [sequentialOk, sequential]

/-- Within one session opened on an empty directory: under any interleaving of
`write_batch` calls, any of which may fail, the batch ids `list_batches` returns are
distinct and lie between `1` and the number of calls started; when no two calls overlap
they are increasing; when moreover no call fails they are `1, …, N`, `N` the number of
rows. -/
theorem listBatches_ids_in_session :
    (∀ s, Reach step inSession (new Disk.empty) s →
      (s.listBatches.map (·.batchId)).Nodup ∧
        ∀ n ∈ s.listBatches.map (·.batchId), 1 ≤ n ∧ n ≤ s.batchCounter) ∧
    (∀ s, Reach step sequential (new Disk.empty) s →
      (s.listBatches.map (·.batchId)).Sorted (· < ·)) ∧
    (∀ s, Reach step sequentialOk (new Disk.empty) s →
      s.listBatches.map (·.batchId) = List.range' 1 s.listBatches.length) := by
  refine ⟨fun s h => ?_, fun s h => ?_, fun s h => ?_⟩
  · have hs := sessionInv_of_reach h
    rw [listBatches_map_batchId]
    refine ⟨Multiset.coe_nodup.mp (Multiset.nodup_add.mp (Multiset.nodup_add.mp hs.nodup).1).1,
      fun n hn => hs.bounds n ?_⟩
    exact Multiset.mem_add.mpr (.inl (Multiset.mem_add.mpr (.inl (Multiset.mem_coe.mpr hn))))
  · have := Reach.induct (fun s => SessionInv s ∧ SeqInv s)
      ⟨sessionInv_new_empty, seqInv_new_empty⟩
      (fun hs hop h => ⟨hs.1.step (sequential_inSession hop) h, hs.2.step hs.1 hop h⟩) h
    rw [listBatches_map_batchId]; exact this.2.sorted
  · have := Reach.induct (fun s => SessionInv s ∧ SeqInv s ∧ SeqOkInv s)
      ⟨sessionInv_new_empty, seqInv_new_empty, by simp [SeqOkInv, inFlight, new, Disk.empty]⟩
      (fun hs hop h =>
        ⟨hs.1.step (sequential_inSession (sequentialOk_sequential hop)) h,
          hs.2.1.step hs.1 (sequentialOk_sequential hop) h,
          SeqOkInv.step hs.2.1 hs.2.2 hop h⟩) h
    rw [listBatches_map_batchId]
    simpa [listBatches] using eq_range'_of_append_eq this.2.2

/-- Two `write_batch` calls one after the other in a session on an empty directory, both
succeeding: a run every schedule of the claim admits, whose ids are `1, 2`. -/
theorem listBatches_ids_in_session_two_calls :
    ∃ s, Reach step sequentialOk (new Disk.empty) s ∧ s.listBatches.map (·.batchId) = [1, 2] ∧
      ((s.listBatches.map (·.batchId)).Nodup ∧
          ∀ n ∈ s.listBatches.map (·.batchId), 1 ≤ n ∧ n ≤ s.batchCounter) ∧
        (s.listBatches.map (·.batchId)).Sorted (· < ·) ∧
        s.listBatches.map (·.batchId) = List.range' 1 s.listBatches.length := by
  obtain ⟨s, hs, h⟩ := reach_of_runSteps step sequentialOk (new Disk.empty)
    [.begin [1], .writeFile 1 none, .insertRow 1 true 0,
      .begin [2], .writeFile 2 none, .insertRow 2 true 0]
    (fun s => s.listBatches.map (·.batchId) == [1, 2]) (by decide)
  have hseq : Reach step sequential (new Disk.empty) s :=
    hs.mono fun _ _ h => sequentialOk_sequential h
  obtain ⟨h₁, h₂, h₃⟩ := listBatches_ids_in_session
  exact ⟨s, hs, by simpa using h, h₁ s (hseq.mono fun _ _ h => sequential_inSession h),
    h₂ s hseq, h₃ s hs⟩

/-- Three overlapping calls in one session on an empty directory: the first fails its file
write, the third inserts its row before the second. `list_batches` returns batch 3, then
batch 2. -/
theorem listBatches_gap_and_reorder :
    ∃ s, Reach step inSession (new Disk.empty) s ∧
      s.listBatches.map (·.batchId) = [3, 2] ∧
      s.listBatches.map (·.batchId) ≠ List.range' 1 s.listBatches.length := by
  obtain ⟨s, hs, hp⟩ := reach_of_runSteps step inSession (new Disk.empty)
    [.begin [1], .begin [2], .begin [3], .writeFile 1 (some none), .writeFile 3 none,
      .insertRow 3 true 0, .writeFile 2 none, .insertRow 2 true 0]
    (fun s => s.listBatches.map (·.batchId) == [3, 2]) (by decide)
  have h : s.listBatches.map (·.batchId) = [3, 2] := by simpa using hp
  have hl : s.listBatches.length = 2 := by simpa [listBatches] using congrArg List.length h
  exact ⟨s, hs, h, by rw [h, hl]; decide⟩

end EventStorage

end SentraLab.Recording
