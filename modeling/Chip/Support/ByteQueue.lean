import Chip.Support.BytesCircularBuffer

/-! The circular buffer as a bounded queue of byte sequences. A sequence takes the bytes of its
length field and its own, and one byte more is always left unused. -/
namespace Chip

open Ring List BytesCircularBuffer

inductive BufferCall where
  | push (payload : List UInt8)
  | pushBoth (payload1 payload2 : List UInt8)
  | pop
  | readFront (dest : List UInt8)
  | getFrontSize

inductive BufferAnswer where
  | status (err : Except ChipError Unit)
  | front (err : Except ChipError Unit) (dest : List UInt8)
  | size (size : Nat)

def BufferAnswer.failed : BufferAnswer → Bool
  | .status (.error _) => true
  | .front (.error _) _ => true
  | _ => false

namespace ByteQueue

def used (queue : List (List UInt8)) : Nat :=
  (queue.map fun entry => entry.length + sizeOfSizeType).sum

def Fits (capacity : Nat) (queue : List (List UInt8)) : Prop := used queue + 1 ≤ capacity

def entry : BufferCall → Option (List UInt8)
  | .push payload => some payload
  | .pushBoth payload1 payload2 => some (payload1 ++ payload2)
  | _ => none

inductive Does (capacity : Nat) :
    List (List UInt8) → BufferCall → BufferAnswer → List (List UInt8) → Prop where
  | push {queue : List (List UInt8)} {call : BufferCall} {payload : List UInt8} {dropped : Nat}
      (hEntry : entry call = some payload) (hLength : payload.length ≤ maxSizeType)
      (hFits : Fits capacity (queue.drop dropped ++ [payload]))
      (hLeast : ∀ fewer < dropped, ¬Fits capacity (queue.drop fewer ++ [payload])) :
      Does capacity queue call (.status (.ok ())) (queue.drop dropped ++ [payload])
  | tooLong {queue : List (List UInt8)} {call : BufferCall} {payload : List UInt8}
      (hEntry : entry call = some payload)
      (hLong : maxSizeType < payload.length ∨ ¬Fits capacity [payload]) :
      Does capacity queue call (.status (.error .invalidArgument)) queue
  | pop {queue : List (List UInt8)} {oldest : List UInt8} :
      Does capacity (oldest :: queue) .pop (.status (.ok ())) queue
  | popEmpty : Does capacity [] .pop (.status (.error .incorrectState)) []
  | readFront {queue : List (List UInt8)} {oldest dest : List UInt8}
      (hRoom : oldest.length ≤ dest.length) :
      Does capacity (oldest :: queue) (.readFront dest) (.front (.ok ()) oldest) (oldest :: queue)
  | readFrontShort {queue : List (List UInt8)} {oldest dest : List UInt8}
      (hRoom : dest.length < oldest.length) :
      Does capacity (oldest :: queue) (.readFront dest)
        (.front (.error .invalidArgument) dest) (oldest :: queue)
  | readFrontEmpty {dest : List UInt8} :
      Does capacity [] (.readFront dest) (.front (.error .incorrectState) dest) []
  | frontSize {queue : List (List UInt8)} :
      Does capacity queue .getFrontSize (.size (queue.headD []).length) queue

theorem Does.unchanged {capacity : Nat} {queue next : List (List UInt8)} {call : BufferCall}
  {answer : BufferAnswer} (hDoes : Does capacity queue call answer next)
  (hFailed : answer.failed = true) : next = queue := by
  cases hDoes with
  | push => cases hFailed
  | pop => cases hFailed
  | _ => rfl

/-- The answers to a sequence of calls, and the queue after it. -/
inductive Runs (capacity : Nat) :
    List (List UInt8) → List BufferCall → List BufferAnswer → List (List UInt8) → Prop where
  | done (queue : List (List UInt8)) : Runs capacity queue [] [] queue
  | call {queue next last : List (List UInt8)} {call : BufferCall} {answer : BufferAnswer}
      {calls : List BufferCall} {answers : List BufferAnswer}
      (head : Does capacity queue call answer next) (tail : Runs capacity next calls answers last) :
      Runs capacity queue (call :: calls) (answer :: answers) last

end ByteQueue

namespace BytesCircularBuffer

open ByteQueue

def call (buffer : BytesCircularBuffer) : BufferCall → Option (BufferAnswer × BytesCircularBuffer)
  | .push payload => do
      let (err, buffer) ← buffer.push payload
      some (.status err, buffer)
  | .pushBoth payload1 payload2 => do
      let (err, buffer) ← buffer.pushBoth payload1 payload2
      some (.status err, buffer)
  | .pop => do
      let (err, buffer) ← buffer.pop
      some (.status err, buffer)
  | .readFront dest => do
      let (err, dest) ← buffer.readFront dest
      some (.front err dest, buffer)
  | .getFrontSize => do
      let size ← buffer.getFrontSize
      some (.size size, buffer)

def calls (buffer : BytesCircularBuffer) :
  List BufferCall → Option (List BufferAnswer × BytesCircularBuffer)
  | [] => some ([], buffer)
  | first :: rest => do
      let (answer, buffer) ← buffer.call first
      let (answers, buffer) ← buffer.calls rest
      some (answer :: answers, buffer)

/-- The bytes between the two ends, in the order of their places. -/
def bytes (buffer : BytesCircularBuffer) : List UInt8 :=
  Ring.slice buffer.mStorage buffer.mDataStart buffer.storageUsed

def frame (entry : List UInt8) : List UInt8 :=
  LittleEndian.encode sizeOfSizeType entry.length ++ entry

/-- The buffer holds the entries of a queue, each behind its length. -/
structure Holds (capacity : Nat) (buffer : BytesCircularBuffer) (queue : List (List UInt8)) : Prop where
  storage : buffer.mStorage.length = capacity
  framed : buffer.bytes = queue.flatMap frame
  sizes : ∀ entry ∈ queue, entry.length ≤ maxSizeType

variable {buffer buffer' : BytesCircularBuffer} {queue : List (List UInt8)} {capacity length offset : Nat}

theorem bytes_length : buffer.bytes.length = buffer.storageUsed :=
  length_slice (Nat.le_of_lt buffer.storageUsed_lt)

theorem read_eq (h : offset + length ≤ buffer.storageUsed) :
  buffer.read length offset = some ((buffer.bytes.drop offset).take length) := by
  have hUsed := buffer.storageUsed_lt
  have hSlice : (buffer.bytes.drop offset).take length =
      slice buffer.mStorage (buffer.advance buffer.mDataStart offset) length := by
    rw [bytes, drop_slice buffer.dataStart (by omega) (by omega), take_slice (by omega),
      advance_eq]
  rw [hSlice, slice_pieces, read, if_pos h]
  rfl

theorem drop_eq (buffer : BytesCircularBuffer) (length : Nat) (h : length ≤ buffer.storageUsed) :
  ∃ next, buffer.drop length = some next ∧ next.bytes = buffer.bytes.drop length ∧
    next.mStorage.length = buffer.mStorage.length := by
  have hUsed := buffer.storageUsed_lt
  refine ⟨_, dif_pos h, ?_, rfl⟩
  rw [bytes, bytes, drop_slice buffer.dataStart (by omega) h]
  congr 1
  exact distance_advance_left buffer.dataStart buffer.dataEnd h

theorem write_eq (buffer : BytesCircularBuffer) (source : List UInt8)
  (h : buffer.storageUsed + source.length < buffer.mStorage.length) :
  ∃ next, buffer.write source = some next ∧ next.bytes = buffer.bytes ++ source ∧
    next.mStorage.length = buffer.mStorage.length := by
  have hAsserted : buffer.storageAvailable - 1 ≥ source.length := by
    unfold storageAvailable mCapacity
    omega
  have hEnd : buffer.mDataEnd =
      Ring.advance buffer.mStorage.length buffer.mDataStart buffer.storageUsed :=
    (Ring.advance_distance buffer.dataStart buffer.dataEnd).symm
  have hLength : (Ring.store buffer.mStorage buffer.mDataEnd source).length = buffer.mStorage.length :=
    Ring.length_store source buffer.dataEnd (by omega)
  refine ⟨_, dif_pos hAsserted, ?_, hLength⟩
  have hUsed : Ring.distance (Ring.store buffer.mStorage buffer.mDataEnd source).length
      buffer.mDataStart (buffer.advance buffer.mDataEnd source.length) =
        buffer.storageUsed + source.length := by
    rw [hLength]
    exact Ring.distance_advance_right buffer.dataStart buffer.dataEnd h
  have hStored := Ring.slice_store source buffer.dataStart (Nat.le_of_lt h)
    buffer.storageUsed_lt
  rw [← hEnd, ← hUsed] at hStored
  exact hStored

theorem frame_length (entry : List UInt8) : (frame entry).length = entry.length + sizeOfSizeType := by
  rw [frame, length_append, LittleEndian.encode_length, Nat.add_comm]

theorem flatMap_frame_length (queue : List (List UInt8)) :
  (queue.flatMap frame).length = used queue := by
  simp only [used, length_flatMap, frame_length]

theorem Holds.storageUsed (hHolds : Holds capacity buffer queue) : buffer.storageUsed = used queue := by
  rw [← bytes_length, hHolds.framed, flatMap_frame_length]

theorem Holds.isEmpty_iff (hHolds : Holds capacity buffer queue) :
  buffer.isEmpty = true ↔ queue = [] := by
  rw [isEmpty, decide_eq_true_iff, hHolds.storageUsed]
  cases queue with
  | nil => simp [used]
  | cons entry queue => simp [used, sizeOfSizeType]

variable {oldest : List UInt8}

section

variable (hHolds : Holds capacity buffer (oldest :: queue))
include hHolds

theorem Holds.isEmpty_cons : buffer.isEmpty = false := by
  rw [Bool.eq_false_iff]
  exact fun h => cons_ne_nil _ _ (hHolds.isEmpty_iff.mp h)

theorem Holds.getFrontSize : buffer.getFrontSize = some oldest.length := by
  have hUsed := hHolds.storageUsed
  rw [used, List.map_cons, List.sum_cons] at hUsed
  have hLength : oldest.length < 256 ^ sizeOfSizeType :=
    Nat.lt_succ_of_le (hHolds.sizes oldest List.mem_cons_self)
  have hField : (buffer.bytes.drop 0).take sizeOfSizeType =
      LittleEndian.encode sizeOfSizeType oldest.length := by
    rw [hHolds.framed, List.drop_zero, List.flatMap_cons, frame, List.append_assoc]
    exact List.take_left' (LittleEndian.encode_length _ _)
  rw [BytesCircularBuffer.getFrontSize, hHolds.isEmpty_cons, if_neg Bool.false_ne_true,
    read_eq (by omega), hField, Option.map_some, LittleEndian.value_encode_of_lt hLength]

theorem Holds.pop : ∃ next, buffer.pop = some (.ok (), next) ∧ Holds capacity next queue := by
  have hUsed := hHolds.storageUsed
  rw [used, List.map_cons, List.sum_cons] at hUsed
  obtain ⟨middle, hSize, hMiddle, hStorage⟩ := drop_eq buffer sizeOfSizeType (by omega)
  have hLeft : middle.storageUsed = buffer.storageUsed - sizeOfSizeType := (drop_eq_some hSize).2.2.2
  obtain ⟨next, hEntry, hNext, hStorage'⟩ := drop_eq middle oldest.length (by omega)
  refine ⟨next, ?_, hStorage'.trans (hStorage.trans hHolds.storage), ?_, ?_⟩
  · simp [BytesCircularBuffer.pop, hHolds.isEmpty_cons, hHolds.getFrontSize, hSize, hEntry]
  · rw [hNext, hMiddle, hHolds.framed, List.drop_drop, List.flatMap_cons]
    exact List.drop_left' (by rw [frame_length, Nat.add_comm])
  · exact fun entry hEntry => hHolds.sizes entry (List.mem_cons_of_mem _ hEntry)

end

theorem Holds.freeUp (need : Nat) (hNeed : need ≤ capacity) (hHolds : Holds capacity buffer queue) :
  ∃ dropped next, buffer.freeUp need = some next ∧ Holds capacity next (queue.drop dropped) ∧
    used (queue.drop dropped) + need ≤ capacity ∧
    ∀ fewer < dropped, ¬used (queue.drop fewer) + need ≤ capacity := by
  have hFull : ∀ {buffer : BytesCircularBuffer} {queue : List (List UInt8)},
      Holds capacity buffer queue →
        (need > buffer.storageAvailable ↔ ¬used queue + need ≤ capacity) := by
    intro buffer queue hHolds
    have hUsed := buffer.storageUsed_lt
    rw [storageAvailable, mCapacity, hHolds.storage, ← hHolds.storageUsed]
    rw [hHolds.storage] at hUsed
    omega
  induction queue generalizing buffer with
  | nil =>
    have hRoom : used [] + need ≤ capacity := by simpa [used] using hNeed
    refine ⟨0, buffer, ?_, hHolds, hRoom, fun fewer h => absurd h (Nat.not_lt_zero _)⟩
    rw [freeUp, if_neg]
    rw [hFull hHolds]
    exact fun h => h hRoom
  | cons oldest queue ih =>
    by_cases hRoom : used (oldest :: queue) + need ≤ capacity
    · refine ⟨0, buffer, ?_, hHolds, hRoom, fun fewer h => absurd h (Nat.not_lt_zero _)⟩
      rw [freeUp, if_neg]
      rw [hFull hHolds]
      exact fun h => h hRoom
    · obtain ⟨middle, hPop, hMiddle⟩ := hHolds.pop
      obtain ⟨dropped, next, hRun, hNext, hFits, hLeast⟩ := ih hMiddle
      refine ⟨dropped + 1, next, ?_, hNext, hFits, ?_⟩
      · rw [freeUp, if_pos ((hFull hHolds).mpr hRoom)]
        split
        · next h =>
            rw [hPop] at h
            cases h
            exact hRun
        · next h => exact absurd hPop (h middle)
      · intro fewer hFewer
        cases fewer with
        | zero => exact hRoom
        | succ fewer => exact hLeast fewer (Nat.lt_of_succ_lt_succ hFewer)

theorem foldlM_write (buffer : BytesCircularBuffer) (pieces : List (List UInt8))
  (h : buffer.storageUsed + pieces.flatten.length < buffer.mStorage.length) :
  ∃ next, pieces.foldlM write buffer = some next ∧
    next.bytes = buffer.bytes ++ pieces.flatten ∧
    next.mStorage.length = buffer.mStorage.length := by
  induction pieces generalizing buffer with
  | nil => exact ⟨buffer, rfl, by simp, rfl⟩
  | cons piece pieces ih =>
    rw [flatten_cons, length_append] at h
    obtain ⟨middle, hWrite, hMiddle, hStorage⟩ := write_eq buffer piece (by omega)
    have hUsed : middle.storageUsed = buffer.storageUsed + piece.length := by
      rw [← bytes_length, hMiddle, length_append, bytes_length]
    obtain ⟨next, hRun, hNext, hStorage'⟩ := ih middle (by omega)
    refine ⟨next, ?_, ?_, hStorage'.trans hStorage⟩
    · rw [foldlM_cons, hWrite]
      exact hRun
    · rw [hNext, hMiddle, flatten_cons, append_assoc]

theorem used_append (queue : List (List UInt8)) (payload : List UInt8) :
  used (queue ++ [payload]) = used queue + (payload.length + sizeOfSizeType) := by
  simp [used]

theorem Holds.pushPieces (hHolds : Holds capacity buffer queue) (pieces : List (List UInt8))
  (payload : List UInt8) (added : BufferCall) (hPayload : pieces.flatten = payload)
  (hEntry : entry added = some payload) :
  ∃ err next queue', buffer.pushPieces payload.length pieces = some (err, next) ∧
    Does capacity queue added (.status err) queue' ∧ Holds capacity next queue' := by
  have hCapacity : buffer.mCapacity = capacity := hHolds.storage
  rw [BytesCircularBuffer.pushPieces]
  by_cases hLong : payload.length > maxSizeType
  · rw [if_pos hLong]
    exact ⟨_, _, queue, rfl, .tooLong hEntry (.inl hLong), hHolds⟩
  · rw [if_neg hLong]
    have hAlone : payload.length + sizeOfSizeType + 1 > buffer.mCapacity ↔ ¬Fits capacity [payload] := by
      simp only [Fits, used, List.map_cons, List.map_nil, List.sum_cons, List.sum_nil, hCapacity]
      omega
    by_cases hWide : payload.length + sizeOfSizeType + 1 > buffer.mCapacity
    · simp only [if_pos hWide]
      exact ⟨_, _, queue, rfl, .tooLong hEntry (.inr (hAlone.mp hWide)), hHolds⟩
    · simp only [if_neg hWide]
      obtain ⟨dropped, freed, hFree, hFreed, hFits, hLeast⟩ :=
        hHolds.freeUp (payload.length + sizeOfSizeType + 1) (by omega)
      have hRoom : ∀ kept : List (List UInt8), Fits capacity (kept ++ [payload]) ↔
          used kept + (payload.length + sizeOfSizeType + 1) ≤ capacity := by
        intro kept
        rw [Fits, used_append, Nat.add_assoc, Nat.add_assoc]
      have hUsed := hFreed.storageUsed
      have hStorage := hFreed.storage
      obtain ⟨sized, hField, hSized, hStorage'⟩ := write_eq freed
        (LittleEndian.encode sizeOfSizeType payload.length) (by
          rw [LittleEndian.encode_length]
          omega)
      have hSizedUsed : sized.storageUsed = freed.storageUsed + sizeOfSizeType := by
        rw [← bytes_length, hSized, List.length_append, bytes_length, LittleEndian.encode_length]
      obtain ⟨next, hPieces, hNext, hStorage''⟩ := foldlM_write sized pieces (by
        rw [hPayload]
        omega)
      refine ⟨.ok (), next, queue.drop dropped ++ [payload], ?_, ?_, ?_, ?_, ?_⟩
      · simp [hFree, hField, hPieces]
      · refine .push hEntry (Nat.le_of_not_gt hLong) ((hRoom _).mpr hFits) ?_
        exact fun fewer hFewer hThere => hLeast fewer hFewer ((hRoom _).mp hThere)
      · rw [hStorage'', hStorage', hStorage]
      · rw [hNext, hSized, hFreed.framed, hPayload, List.flatMap_append, List.append_assoc]
        simp [frame]
      · intro item hItem
        rcases List.mem_append.mp hItem with hOld | hNew
        · exact hFreed.sizes item hOld
        · rw [List.mem_singleton.mp hNew]
          exact Nat.le_of_not_gt hLong

theorem Holds.readFront {oldest dest : List UInt8} (hHolds : Holds capacity buffer (oldest :: queue)) :
  buffer.readFront dest = if dest.length < oldest.length then some (.error .invalidArgument, dest)
    else some (.ok (), oldest) := by
  have hUsed := hHolds.storageUsed
  rw [used, List.map_cons, List.sum_cons] at hUsed
  have hFront : (buffer.bytes.drop sizeOfSizeType).take oldest.length = oldest := by
    rw [hHolds.framed, List.flatMap_cons, frame, List.append_assoc,
      List.drop_left' (LittleEndian.encode_length _ _), List.take_left]
  rw [BytesCircularBuffer.readFront, hHolds.isEmpty_cons, if_neg Bool.false_ne_true,
    hHolds.getFrontSize, Option.bind_eq_bind, Option.bind_some]
  split
  · rfl
  · rw [read_eq (by omega), hFront]
    rfl

theorem Holds.call (hHolds : Holds capacity buffer queue) (next : BufferCall) :
  ∃ answer buffer' queue', buffer.call next = some (answer, buffer') ∧
    Does capacity queue next answer queue' ∧ Holds capacity buffer' queue' := by
  cases next with
  | push payload =>
    obtain ⟨err, buffer', queue', hRun, hDoes, hNext⟩ := hHolds.pushPieces
      [payload] payload (.push payload) List.flatten_singleton rfl
    exact ⟨.status err, buffer', queue', by simp [BytesCircularBuffer.call, push, hRun], hDoes, hNext⟩
  | pushBoth payload1 payload2 =>
    obtain ⟨err, buffer', queue', hRun, hDoes, hNext⟩ := hHolds.pushPieces
      [payload1, payload2] (payload1 ++ payload2) (.pushBoth payload1 payload2) (by simp) rfl
    rw [List.length_append] at hRun
    exact ⟨.status err, buffer', queue',
      by simp [BytesCircularBuffer.call, pushBoth, hRun], hDoes, hNext⟩
  | pop =>
    cases queue with
    | nil =>
      have hEmpty := hHolds.isEmpty_iff.mpr rfl
      exact ⟨_, buffer, [], by simp [BytesCircularBuffer.call, BytesCircularBuffer.pop, hEmpty],
        .popEmpty, hHolds⟩
    | cons oldest queue =>
      obtain ⟨buffer', hPop, hNext⟩ := hHolds.pop
      exact ⟨_, buffer', queue, by simp [BytesCircularBuffer.call, hPop], .pop, hNext⟩
  | readFront dest =>
    cases queue with
    | nil =>
      have hEmpty := hHolds.isEmpty_iff.mpr rfl
      exact ⟨_, buffer, [],
        by simp [BytesCircularBuffer.call, BytesCircularBuffer.readFront, hEmpty],
        .readFrontEmpty, hHolds⟩
    | cons oldest queue =>
      by_cases hRoom : dest.length < oldest.length
      · exact ⟨_, buffer, _, by simp [BytesCircularBuffer.call, hHolds.readFront, hRoom],
          .readFrontShort hRoom, hHolds⟩
      · exact ⟨_, buffer, _, by simp [BytesCircularBuffer.call, hHolds.readFront, hRoom],
          .readFront (Nat.le_of_not_lt hRoom), hHolds⟩
  | getFrontSize =>
    have hSize : buffer.getFrontSize = some (queue.headD []).length := by
      cases queue with
      | nil => simp [BytesCircularBuffer.getFrontSize, hHolds.isEmpty_iff.mpr rfl]
      | cons oldest queue => exact hHolds.getFrontSize
    exact ⟨_, buffer, queue, by simp [BytesCircularBuffer.call, hSize], .frontSize, hHolds⟩

theorem Holds.calls (hHolds : Holds capacity buffer queue) (sequence : List BufferCall) :
  ∃ answers buffer' queue', buffer.calls sequence = some (answers, buffer') ∧
    Runs capacity queue sequence answers queue' ∧ Holds capacity buffer' queue' := by
  induction sequence generalizing buffer queue with
  | nil => exact ⟨[], buffer, queue, rfl, .done queue, hHolds⟩
  | cons first rest ih =>
    obtain ⟨answer, middle, between, hFirst, hDoes, hMiddle⟩ := hHolds.call first
    obtain ⟨answers, buffer', queue', hRest, hRuns, hLast⟩ := ih hMiddle
    exact ⟨answer :: answers, buffer', queue', by simp [calls, hFirst, hRest],
      .call hDoes hRuns, hLast⟩

theorem Holds.make {storage : List UInt8} (hMake : BytesCircularBuffer.make storage = some buffer) :
  Holds storage.length buffer [] := by
  unfold BytesCircularBuffer.make at hMake
  split at hMake
  · obtain rfl := Option.some.inj hMake
    refine ⟨rfl, ?_, by simp⟩
    simp [bytes, Ring.slice, BytesCircularBuffer.storageUsed]
  · cases hMake

theorem Holds.failed_unchanged (hHolds : Holds capacity buffer queue) {next : BufferCall}
  {answer : BufferAnswer} (hCall : buffer.call next = some (answer, buffer'))
  (hFailed : answer.failed = true) : buffer'.bytes = buffer.bytes := by
  obtain ⟨answer', after, queue', hRun, hDoes, hNext⟩ := hHolds.call next
  rw [hCall] at hRun
  cases hRun
  rw [hNext.framed, hDoes.unchanged hFailed, hHolds.framed]

/-- Every sequence of calls on a new buffer, whatever its capacity, fails no assertion and gives
the answers of a bounded queue, whose entries the buffer holds at the end. A failing call there
leaves its bytes alone. -/
theorem calls_refine_queue {storage : List UInt8} (hMake : make storage = some buffer)
    (sequence : List BufferCall) :
    ∃ answers buffer' queue', buffer.calls sequence = some (answers, buffer') ∧
      Runs storage.length [] sequence answers queue' ∧ Holds storage.length buffer' queue' ∧
      ∀ next answer after, buffer'.call next = some (answer, after) → answer.failed = true →
        after.bytes = buffer'.bytes := by
  obtain ⟨answers, buffer', queue', hRun, hRuns, hHolds⟩ := (Holds.make hMake).calls sequence
  exact ⟨answers, buffer', queue', hRun, hRuns, hHolds,
    fun _ _ _ hCall hFailed => hHolds.failed_unchanged hCall hFailed⟩

def eightBytes : BytesCircularBuffer where
  mStorage := List.replicate 8 0
  mDataStart := 0
  mDataEnd := 0
  capacity := by decide
  dataStart := by decide
  dataEnd := by decide

/-- In a buffer of eight bytes a second sequence drives out the first one. -/
theorem calls_refine_queue_eight :
    make (List.replicate 8 0) = some eightBytes ∧
    ∃ answers buffer' queue',
      eightBytes.calls [.push [1, 2, 3], .pushBoth [4] [5], .readFront [0, 0, 0], .pop, .pop] =
        some (answers, buffer') ∧
      Runs (List.replicate 8 (0 : UInt8)).length []
        [.push [1, 2, 3], .pushBoth [4] [5], .readFront [0, 0, 0], .pop, .pop] answers queue' ∧
      Holds (List.replicate 8 (0 : UInt8)).length buffer' queue' ∧
      ∀ next answer after, buffer'.call next = some (answer, after) → answer.failed = true →
        after.bytes = buffer'.bytes :=
  ⟨rfl, calls_refine_queue rfl _⟩

end BytesCircularBuffer

end Chip
